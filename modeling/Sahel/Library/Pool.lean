import Sahel.Library.Autocommit
import Sahel.Library.Interference

/-!
# A pool of connections

Some handlers open a transaction; others ask the pool for one statement at a time, each of them its
own transaction.  Both run at once, on the same rows and under the same locks.

* `work` is what a connection runs: a whole transaction, or one statement of a call;
* `Call` is a call that runs statement by statement: its rest, the connection it waits for, and the
  statements that have answered;
* `Step` lets a call ask a connection for its next statement and hear of the answer, or of a failure;
  between them the connections run as transactions do;
* **`Run.base`**: the connections of a pool's run are a run of transactions, so that what holds along
  those holds here;
* `Earned` says that a program cannot end well without a certain answer, and **`Run.earned`** that a
  call which ended well has had it;
* **`Run.won_once`**: an answer that is given only while a state is open, and closes it for good, is
  given once.
-/

set_option autoImplicit false

namespace Pool

open ReadCommitted
open Autocommit (Entry)

variable {DB Write Lock Err Oracle Stmt Req ReqX ε ε' α β : Type} {Val : Stmt → Type}

/-- A statement of its own ends in its answer. -/
def conclude (st : Stmt) :
    Except Err (Val st) → Prog Stmt Val Err (ε ⊕ Err) (α ⊕ ((s : Stmt) × Val s))
  | .ok v => .pure (.inr ⟨st, v⟩)
  | .error e => .throw (.inr e)

/-- What a connection runs for a transaction, or for one statement. -/
def work (program : Req → Prog Stmt Val Err ε α) :
    Req ⊕ Stmt → Prog Stmt Val Err (ε ⊕ Err) (α ⊕ ((s : Stmt) × Val s))
  | .inl r => Sum.inl <$> (program r).mapErr Sum.inl
  | .inr st => .exec st (conclude st)

/-- A call: what is left of its program, the connection that runs its next statement, and the
statements that have answered. -/
structure Call (Err Stmt : Type) (Val : Stmt → Type) (ReqX ε' β : Type) where
  req : ReqX
  prog : Prog Stmt Val Err ε' β
  slot : Option ℕ
  log : List (Entry Err Stmt Val)

/-- The connections, and every call so far. -/
structure State (DB Write Lock Err Stmt : Type) (Val : Stmt → Type) (Req ReqX ε ε' α β : Type) where
  base : ReadCommitted.State DB Write Lock Err Stmt Val (Req ⊕ Stmt) (ε ⊕ Err)
    (α ⊕ ((s : Stmt) × Val s))
  calls : List (Call Err Stmt Val ReqX ε' β)

/-- Nobody is connected, and no call has come. -/
def State.quiet (db : DB) : State DB Write Lock Err Stmt Val Req ReqX ε ε' α β :=
  ⟨ReadCommitted.State.quiet db, []⟩

/-- The committed rows. -/
def State.db (s : State DB Write Lock Err Stmt Val Req ReqX ε ε' α β) : DB := s.base.db

/-- Connection `i` runs a call's statement `st`. -/
def AtWork (b : ReadCommitted.State DB Write Lock Err Stmt Val (Req ⊕ Stmt) (ε ⊕ Err)
    (α ⊕ ((s : Stmt) × Val s))) (i : ℕ) (st : Stmt) : Prop :=
  ∃ t, b.txs i = some t ∧ t.req = .inr st

/-- A call whose statement has answered, as far as it has heard. -/
def Call.answered (c : Call Err Stmt Val ReqX ε' β) (st : Stmt)
    (k : Except Err (Val st) → Prog Stmt Val Err ε' β) (now : ℤ) (heard : Except Err (Val st)) :
    Call Err Stmt Val ReqX ε' β :=
  ⟨c.req, k heard, none, c.log ++ [⟨st, now, heard⟩]⟩

section System

variable (D : Database DB Write Lock Err Oracle Stmt Val)
variable (program : Req → Prog Stmt Val Err ε α) (programX : ReqX → Prog Stmt Val Err ε' β)

/-- A call as it arrives. -/
def Call.arrived (r : ReqX) : Call Err Stmt Val ReqX ε' β := ⟨r, programX r, none, []⟩

/-- One step; a committing step carries the request it serves. -/
inductive Step : State DB Write Lock Err Stmt Val Req ReqX ε ε' α β → Option (Req ⊕ ReqX) →
    State DB Write Lock Err Stmt Val Req ReqX ε ε' α β → Prop where
  | arrive {s} (r : ReqX) : Step s none { s with calls := s.calls ++ [Call.arrived programX r] }
  /-- the connections go on; no call's statement begins or ends -/
  | base {s b} (lab : Option Req)
      (h : ReadCommitted.Step D (work program) s.base (lab.map Sum.inl) b)
      (others : ∀ i st, AtWork b i st ↔ AtWork s.base i st) :
      Step s (lab.map Sum.inl) { s with base := b }
  | ask {s l₁ c l₂ st k} (i : ℕ) (now : ℤ) (here : s.calls = l₁ ++ c :: l₂)
      (next : c.prog = .exec st k) (idle : c.slot = none) (free : s.base.txs i = none) :
      Step s none ⟨⟨s.base.db, Function.update s.base.txs i
        (some (Txn.start (work program) (.inr st) now))⟩, l₁ ++ { c with slot := some i } :: l₂⟩
  /-- the statement is committed; its answer may be lost on the way -/
  | answer {s l₁ c l₂ st k i t v} (heard : Except Err (Val st)) (here : s.calls = l₁ ++ c :: l₂)
      (next : c.prog = .exec st k) (waits : c.slot = some i) (live : s.base.txs i = some t)
      (serves : t.req = .inr st) (done : t.prog = .pure (.inr ⟨st, v⟩)) (fine : t.failed = false)
      (told : ∀ w, heard = .ok w → w = v) :
      Step s (some (.inr c.req)) ⟨⟨D.view s.base.db t.writes, Function.update s.base.txs i none⟩,
        l₁ ++ c.answered st k t.now heard :: l₂⟩
  | fail {s l₁ c l₂ st k i t} (e : Err) (here : s.calls = l₁ ++ c :: l₂)
      (next : c.prog = .exec st k) (waits : c.slot = some i) (live : s.base.txs i = some t)
      (serves : t.req = .inr st) :
      Step s none ⟨⟨s.base.db, Function.update s.base.txs i none⟩,
        l₁ ++ c.answered st k t.now (.error e) :: l₂⟩

/-- The states reached from `s₀`. -/
inductive Run (s₀ : State DB Write Lock Err Stmt Val Req ReqX ε ε' α β) :
    State DB Write Lock Err Stmt Val Req ReqX ε ε' α β → Prop where
  | refl : Run s₀ s₀
  | step {s lab s'} (hs : Run s₀ s) (h : Step D program programX s lab s') : Run s₀ s'

/-- The states reached from the rows `db₀`, with nobody connected. -/
abbrev Reachable (db₀ : DB) : State DB Write Lock Err Stmt Val Req ReqX ε ε' α β → Prop :=
  Run D program programX (State.quiet db₀)

variable {D program programX}
variable {s₀ s s' : State DB Write Lock Err Stmt Val Req ReqX ε ε' α β} {lab : Option (Req ⊕ ReqX)}

theorem Run.trans {s₁ : State DB Write Lock Err Stmt Val Req ReqX ε ε' α β}
    (h : Run D program programX s₀ s) (h' : Run D program programX s s₁) :
    Run D program programX s₀ s₁ := by
  induction h' with
  | refl => exact h
  | step _ hstep ih => exact ih.step hstep

/-! ### The connections -/

/-- A step of the pool is a step of its connections, or leaves them as they are. -/
theorem Step.base_step (h : Step D program programX s lab s') : s'.base = s.base ∨
    ∃ blab, ReadCommitted.Step D (work program) s.base blab s'.base := by
  cases h with
  | arrive r => exact Or.inl rfl
  | base l h others => exact Or.inr ⟨_, h⟩
  | ask i now here next idle free => exact Or.inr ⟨none, .start i _ now free⟩
  | answer heard here next waits live serves done fine told =>
    exact Or.inr ⟨_, .commit _ live done fine⟩
  | fail e here next waits live serves => exact Or.inr ⟨none, .abort _ live⟩

/-- **The connections run as transactions do.** -/
theorem Run.base (h : Run D program programX s₀ s) :
    ReadCommitted.Run D (work program) anyCommit s₀.base s.base := by
  induction h with
  | refl => exact .refl
  | step _ hstep ih =>
    rcases hstep.base_step with he | ⟨blab, hb⟩
    · rw [he]
      exact ih
    · exact ih.step hb (fun _ _ => trivial)

/-- The request a transaction of a connection serves: its own, or the one of the call behind it. -/
inductive Serves (s : State DB Write Lock Err Stmt Val Req ReqX ε ε' α β) :
    Req ⊕ Stmt → Req ⊕ ReqX → Prop where
  | whole (r : Req) : Serves s (.inl r) (.inl r)
  | call {c st k} (hc : c ∈ s.calls) (next : c.prog = .exec st k) : Serves s (.inr st) (.inr c.req)

/-- **What a step commits**: nothing, or the writes of one transaction that is done. -/
theorem Step.committed (h : Step D program programX s lab s') :
    (lab = none ∧ s'.db = s.db) ∨ ∃ who i t a, lab = some who ∧ s.base.txs i = some t ∧
      t.prog = .pure a ∧ t.failed = false ∧ Serves s t.req who ∧ s'.db = D.view s.db t.writes := by
  cases h with
  | arrive r => exact Or.inl ⟨rfl, rfl⟩
  | @base b l h others =>
    cases l with
    | none => exact Or.inl ⟨rfl, h.db_eq⟩
    | some r =>
      generalize hl : Option.map Sum.inl (some r) = blab at h
      cases h with
      | start i r now free => cases hl
      | exec i o live next fine free => cases hl
      | refused i live next bad => cases hl
      | abort i live => cases hl
      | @commit i t a live done fine =>
        have hreq : t.req = .inl r := (Option.some.inj hl).symm
        refine Or.inr ⟨.inl r, i, t, a, rfl, live, done, fine, ?_, rfl⟩
        rw [hreq]
        exact .whole r
  | ask i now here next idle free => exact Or.inl ⟨rfl, rfl⟩
  | @answer l₁ c l₂ st k i t v heard here next waits live serves done fine told =>
    refine Or.inr ⟨.inr c.req, i, t, _, rfl, live, done, fine, ?_, rfl⟩
    rw [serves]
    exact .call (by rw [here]; exact List.mem_append_right _ List.mem_cons_self) next
  | fail e here next waits live serves => exact Or.inl ⟨rfl, rfl⟩

/-! ### The calls -/

/-- What holds of every call: as it arrives, and however its statements answer. -/
theorem Run.calls {J : Call Err Stmt Val ReqX ε' β → Prop}
    (arrived : ∀ r, J (Call.arrived programX r)) (asked : ∀ {c} i, J c → J { c with slot := some i })
    (answered : ∀ {c st k now heard}, J c → c.prog = .exec st k → J (c.answered st k now heard))
    (h : Run D program programX s₀ s) (h₀ : ∀ c ∈ s₀.calls, J c) : ∀ c ∈ s.calls, J c := by
  induction h with
  | refl => exact h₀
  | step _ hstep ih =>
    -- one call has moved, the others are as they were
    have hmoved : ∀ {l₁ c c' l₂}, (∀ x ∈ l₁ ++ c :: l₂, J x) → J c' → ∀ x ∈ l₁ ++ c' :: l₂, J x := by
      intro l₁ c c' l₂ hall hc' x hx
      rcases List.mem_append.mp hx with hx | hx
      · exact hall x (List.mem_append_left _ hx)
      · rcases List.mem_cons.mp hx with rfl | hx
        · exact hc'
        · exact hall x (List.mem_append_right _ (List.mem_cons_of_mem _ hx))
    have hhere : ∀ {l₁ c l₂}, (∀ x ∈ l₁ ++ c :: l₂, J x) → J c := fun hall =>
      hall _ (List.mem_append_right _ List.mem_cons_self)
    cases hstep with
    | arrive r =>
      intro x hx
      rcases List.mem_append.mp hx with hx | hx
      · exact ih x hx
      · rw [List.mem_singleton.mp hx]
        exact arrived r
    | base l h others => exact ih
    | ask i now here next idle free =>
      rw [here] at ih
      exact hmoved ih (asked i (hhere ih))
    | answer heard here next waits live serves done fine told =>
      rw [here] at ih
      exact hmoved ih (answered (hhere ih) next)
    | fail e here next waits live serves =>
      rw [here] at ih
      exact hmoved ih (answered (hhere ih) next)

/-- A call runs the statements of its program. -/
theorem Run.only {ok : ReqX → Stmt → Prop} (hp : ∀ r, (programX r).Only (ok r)) {db₀ : DB}
    (h : Reachable D program programX db₀ s) : ∀ c ∈ s.calls, c.prog.Only (ok c.req) := by
  refine h.calls (J := fun c => c.prog.Only (ok c.req)) hp (fun _ hc => hc) ?_
    (fun c hc => absurd hc List.not_mem_nil)
  intro c st k now heard hc next
  rw [next] at hc
  exact hc.next heard

theorem any_answered (hit : Entry Err Stmt Val → Bool) (c : Call Err Stmt Val ReqX ε' β) {st : Stmt}
    {k : Except Err (Val st) → Prog Stmt Val Err ε' β} {now : ℤ} {heard : Except Err (Val st)} :
    (c.answered st k now heard).log.any hit = (c.log.any hit || hit ⟨st, now, heard⟩) := by
  simp [Call.answered]

/-- Every way for the program to end well passes a statement whose answer is a hit. -/
def Earned (hit : Entry Err Stmt Val → Bool) : Prog Stmt Val Err ε' β → Prop
  | .pure _ => False
  | .throw _ => True
  | .exec st k => ∀ now r, hit ⟨st, now, r⟩ = true ∨ Earned hit (k r)

section Rules

variable {hit : Entry Err Stmt Val → Bool} {β' : Type}

/-- It is enough that what comes second is earned. -/
theorem earned_bind {p : Prog Stmt Val Err ε' β} {f : β → Prog Stmt Val Err ε' β'}
    (hf : ∀ a, Earned hit (f a)) : Earned hit (p >>= f) := by
  show Earned hit (p.bind f)
  induction p with
  | pure a => exact hf a
  | throw e => trivial
  | exec st k ih => exact fun now r => Or.inr (ih r)

theorem earned_map {p : Prog Stmt Val Err ε' β} (f : β → β') (hp : Earned hit p) :
    Earned hit (f <$> p) := by
  show Earned hit (p.bind (fun a => .pure (f a)))
  induction p with
  | pure a => exact absurd hp id
  | throw e => trivial
  | exec st k ih => exact fun now r => (hp now r).imp id (ih r)

theorem earned_require {x : Option β} {e : ε'} {f : β → Prog Stmt Val Err ε' β'}
    (hf : ∀ a, x = some a → Earned hit (f a)) : Earned hit (Prog.require x e >>= f) := by
  cases x with
  | none => trivial
  | some a => exact hf a rfl

/-- What comes after an answer that is no hit is earned. -/
theorem earned_attempt {st : Stmt} {f : Except Err (Val st) → Prog Stmt Val Err ε' β'}
    (hf : ∀ now r, hit ⟨st, now, r⟩ = false → Earned hit (f r)) :
    Earned hit (Prog.attempt st >>= f) := by
  intro now r
  cases hhit : hit ⟨st, now, r⟩ with
  | true => exact Or.inl rfl
  | false => exact Or.inr (hf now r hhit)

end Rules

/-- **A call that ended well has had a hit.** -/
theorem Run.earned {who : ReqX → Prop} {hit : Entry Err Stmt Val → Bool}
    (hp : ∀ r, who r → Earned hit (programX r)) {db₀ : DB} (h : Reachable D program programX db₀ s)
    {c : Call Err Stmt Val ReqX ε' β} (hc : c ∈ s.calls) (hr : who c.req) {b : β}
    (done : c.prog = .pure b) : c.log.any hit = true := by
  have hJ : ∀ c ∈ s.calls, who c.req → c.log.any hit = true ∨ Earned hit c.prog := by
    refine h.calls (J := fun c => who c.req → c.log.any hit = true ∨ Earned hit c.prog)
      (fun r hr => Or.inr (hp r hr)) (fun _ hc => hc) ?_ (fun c hc => absurd hc List.not_mem_nil)
    intro c st k now heard hc next hr
    rw [any_answered, Bool.or_eq_true]
    rcases hc hr with hwon | hearn
    · exact Or.inl (Or.inl hwon)
    · rw [next] at hearn
      rcases hearn now heard with hhit | hrest
      · exact Or.inl (Or.inr hhit)
      · exact Or.inr hrest
  rcases hJ c hc hr with hwon | hearn
  · exact hwon
  · rw [done] at hearn
    exact absurd hearn id

/-! ### What is won once -/

/-- One call has moved; the count is as it was, or the call was not counted and is. -/
theorem countP_moved (p : Call Err Stmt Val ReqX ε' β → Bool) (l₁ l₂ : List (Call Err Stmt Val ReqX ε' β))
    {c c' : Call Err Stmt Val ReqX ε' β} (h : p c' = p c) :
    (l₁ ++ c' :: l₂).countP p = (l₁ ++ c :: l₂).countP p := by
  rw [List.countP_append, List.countP_append, List.countP_cons, List.countP_cons, h]

/-- **An answer that is given only while the rows are open, and closes them for good, is given
once.** -/
theorem Run.won_once {hit : Entry Err Stmt Val → Bool} (Closed : DB → Prop) {db₀ : DB}
    (hfail : ∀ st now e, hit ⟨st, now, .error e⟩ = false)
    (hkeep : ∀ {s lab s'}, Reachable D program programX db₀ s → Step D program programX s lab s' →
      Closed s.db → Closed s'.db)
    (hwin : ∀ {s} {i t st v}, Reachable D program programX db₀ s → s.base.txs i = some t →
      t.req = .inr st → t.prog = .pure (.inr ⟨st, v⟩) → t.failed = false →
      hit ⟨st, t.now, .ok v⟩ = true → ¬ Closed s.db ∧ Closed (D.view s.db t.writes))
    (h : Reachable D program programX db₀ s) :
    s.calls.countP (fun c => c.log.any hit) ≤ 1 ∧
      (0 < s.calls.countP (fun c => c.log.any hit) → Closed s.db) := by
  induction h with
  | refl => exact ⟨Nat.zero_le 1, fun hpos => absurd hpos (Nat.lt_irrefl 0)⟩
  | @step s lab s' hs hstep ih =>
    obtain ⟨hone, hclosed⟩ := ih
    -- a step after which as many calls have won
    have hsame : s'.calls.countP (fun c => c.log.any hit) = s.calls.countP (fun c => c.log.any hit) →
        s'.calls.countP (fun c => c.log.any hit) ≤ 1 ∧
          (0 < s'.calls.countP (fun c => c.log.any hit) → Closed s'.db) := by
      intro hcount
      rw [hcount]
      exact ⟨hone, fun hpos => hkeep hs hstep (hclosed hpos)⟩
    cases hstep with
    | arrive r =>
      refine hsame ?_
      rw [List.countP_append]
      rfl
    | base l h others => exact hsame rfl
    | ask i now here next idle free =>
      refine hsame ?_
      rw [here]
      exact countP_moved _ _ _ rfl
    | @answer l₁ c l₂ st k i t v heard here next waits live serves done fine told =>
      by_cases hhit : hit ⟨st, t.now, heard⟩ = true
      · -- the answer is a hit, so no call has won before
        cases heard with
        | error e => rw [hfail] at hhit; cases hhit
        | ok w =>
          obtain rfl := told w rfl
          obtain ⟨hopen, hnow⟩ := hwin hs live serves done fine hhit
          have hzero : s.calls.countP (fun c => c.log.any hit) = 0 := by
            by_contra hne
            exact hopen (hclosed (Nat.pos_of_ne_zero hne))
          rw [here, List.countP_append, List.countP_cons] at hzero
          refine ⟨?_, fun _ => hnow⟩
          rw [List.countP_append, List.countP_cons]
          split <;> omega
      · refine hsame ?_
        rw [here]
        refine countP_moved _ _ _ ?_
        show (c.answered st k t.now heard).log.any hit = c.log.any hit
        rw [any_answered, eq_false_of_ne_true hhit, Bool.or_false]
    | @fail l₁ c l₂ st k i t e here next waits live serves =>
      refine hsame ?_
      rw [here]
      refine countP_moved _ _ _ ?_
      show (c.answered st k t.now (.error e)).log.any hit = c.log.any hit
      rw [any_answered, hfail, Bool.or_false]

/-! ### One call at a time -/

variable (D) in
/-- A call served with nobody else connected: the committed rows, what is left of it, and what it has
run. -/
def alone (o : Oracle) (now : ℤ) : DB → Prog Stmt Val Err ε' β → List (Entry Err Stmt Val) →
    DB × Prog Stmt Val Err ε' β × List (Entry Err Stmt Val)
  | db, .exec st k, log =>
    match D.eval st o now db with
    | .ok (v, ws) => alone o now (D.view db ws) (k (.ok v)) (log ++ [⟨st, now, .ok v⟩])
    | .error e => alone o now db (k (.error e)) (log ++ [⟨st, now, .error e⟩])
  | db, p, log => (db, p, log)

section Alone

variable {cs : List (Call Err Stmt Val ReqX ε' β)} {r : ReqX} {st : Stmt} {db : DB} {now : ℤ}
variable {k : Except Err (Val st) → Prog Stmt Val Err ε' β} {log : List (Entry Err Stmt Val)}

/-- The statement of a lone call runs on connection 0. -/
theorem Run.ask_alone (now : ℤ) (o : Oracle)
    (h : Run D program programX s₀ ⟨ReadCommitted.State.quiet db, cs ++ [⟨r, .exec st k, none, log⟩]⟩) :
    Run D program programX s₀ ⟨ReadCommitted.State.only db
      ((Txn.start (work program) (.inr st) now).run D db st (conclude st) o),
      cs ++ [⟨r, .exec st k, some 0, log⟩]⟩ := by
  have hask : Run D program programX s₀ ⟨ReadCommitted.State.only db
      (Txn.start (work program) (.inr st) now), cs ++ [⟨r, .exec st k, some 0, log⟩]⟩ :=
    h.step (Step.ask (s := ⟨ReadCommitted.State.quiet db, _⟩) (c := ⟨r, .exec st k, none, log⟩)
      0 now rfl rfl rfl rfl)
  have hexec := hask.step (Step.base none (ReadCommitted.Step.exec 0 o
    (ReadCommitted.State.only_live db _) rfl rfl (ReadCommitted.State.only_free D db _ _)) (by
      intro i st'
      by_cases hi : i = 0
      · subst hi
        have hreq : ∀ t : Txn Write Lock Err Stmt Val (Req ⊕ Stmt) (ε ⊕ Err) (α ⊕ ((s : Stmt) × Val s)),
            ∀ (s : Stmt) k' o', (t.run D db s k' o').req = t.req := by
          intro t s k' o'
          simp only [Txn.run]
          split <;> rfl
        simp only [AtWork, Function.update_self, ReadCommitted.State.only_live,
          ReadCommitted.State.only_db, Option.some.injEq, exists_eq_left', hreq]
      · simp only [AtWork, Function.update_of_ne hi]))
  simpa only [ReadCommitted.State.only_db, ReadCommitted.State.only_update] using hexec

theorem Run.statement_ok {o : Oracle} {v : Val st} {ws : List Write}
    (he : D.eval st o now db = .ok (v, ws))
    (h : Run D program programX s₀ ⟨ReadCommitted.State.quiet db, cs ++ [⟨r, .exec st k, none, log⟩]⟩) :
    Run D program programX s₀ ⟨ReadCommitted.State.quiet (D.view db ws),
      cs ++ [⟨r, k (.ok v), none, log ++ [⟨st, now, .ok v⟩]⟩]⟩ := by
  have hrun := h.ask_alone now o
  simp only [Txn.run, Txn.start, Database.view_nil, he] at hrun
  have hdone := hrun.step (Step.answer (.ok v) rfl rfl rfl (ReadCommitted.State.only_live db _) rfl rfl
    rfl (fun w hw => (Except.ok.inj hw).symm))
  rw [ReadCommitted.State.only_end] at hdone
  exact hdone

theorem Run.statement_error {o : Oracle} {e : Err} (he : D.eval st o now db = .error e)
    (h : Run D program programX s₀ ⟨ReadCommitted.State.quiet db, cs ++ [⟨r, .exec st k, none, log⟩]⟩) :
    Run D program programX s₀ ⟨ReadCommitted.State.quiet db,
      cs ++ [⟨r, k (.error e), none, log ++ [⟨st, now, .error e⟩]⟩]⟩ := by
  have hrun := h.ask_alone now o
  simp only [Txn.run, Txn.start, Database.view_nil, he] at hrun
  have hdone := hrun.step (Step.fail e rfl rfl rfl (ReadCommitted.State.only_live db _) rfl)
  rw [ReadCommitted.State.only_end] at hdone
  exact hdone

/-- A call that nobody disturbs can run to its end. -/
theorem Run.finish (o : Oracle) (p : Prog Stmt Val Err ε' β) :
    ∀ (db : DB) (log : List (Entry Err Stmt Val)),
      Run D program programX s₀ ⟨ReadCommitted.State.quiet db, cs ++ [⟨r, p, none, log⟩]⟩ →
      Run D program programX s₀ ⟨ReadCommitted.State.quiet (alone D o now db p log).1,
        cs ++ [⟨r, (alone D o now db p log).2.1, none, (alone D o now db p log).2.2⟩]⟩ := by
  induction p with
  | pure a => exact fun db log h => h
  | throw e => exact fun db log h => h
  | exec st k ih =>
    intro db log h
    rw [alone]
    cases he : D.eval st o now db with
    | ok res => exact ih _ _ _ (h.statement_ok he)
    | error e => exact ih _ _ _ (h.statement_error he)

end Alone

variable (D programX) in
/-- A request that comes and is served with nobody else connected. -/
def serve (x : DB × List (Call Err Stmt Val ReqX ε' β)) (c : ReqX × Oracle × ℤ) :
    DB × List (Call Err Stmt Val ReqX ε' β) :=
  let y := alone D c.2.1 c.2.2 x.1 (programX c.1) []
  (y.1, x.2 ++ [⟨c.1, y.2.1, none, y.2.2⟩])

/-- **Calls served one after the other** are a run of the pool. -/
theorem Run.serve_all (cs : List (ReqX × Oracle × ℤ)) :
    ∀ x : DB × List (Call Err Stmt Val ReqX ε' β),
      Run D program programX s₀ ⟨ReadCommitted.State.quiet x.1, x.2⟩ →
      Run D program programX s₀ ⟨ReadCommitted.State.quiet (cs.foldl (serve D programX) x).1,
        (cs.foldl (serve D programX) x).2⟩ := by
  induction cs with
  | nil => exact fun x h => h
  | cons c cs ih =>
    exact fun x h => ih _ (Run.finish c.2.1 (programX c.1) _ _ (h.step (Step.arrive c.1)))

end System

end Pool

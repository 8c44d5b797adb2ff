import Sahel.Library.Interference

/-!
# Histories: what a transaction ran, and on which rows

`Step` forgets a statement once it has run.  Here each live transaction keeps its history: the
statements it has run, each with the oracle's answers and the committed rows it ran on.

* `Ran now p W es a W'`: running `p` on the events `es` ends with the value `a`, and the pending
  writes `W` have become `W'`; the rules under it take a program apart;
* `LStep` and `LRun` are the system's steps and runs with histories; a run also lists the requests
  it committed, in order, and carries a condition that every commit meets;
* **`Told.commit`**: when a transaction commits, its whole program ran on its history.
-/

set_option autoImplicit false

namespace ReadCommitted

variable {DB Write Lock Err Oracle Stmt Req ε ε' α β : Type} {Val : Stmt → Type}

/-- A statement that ran, and the committed rows at that moment. -/
structure Event (DB Oracle Stmt : Type) where
  stmt : Stmt
  oracle : Oracle
  db : DB

/-! ### Programs and their events -/

/-- Running a program to its end on the given events. -/
inductive Ran (D : Database DB Write Lock Err Oracle Stmt Val) (now : ℤ) : Prog Stmt Val Err ε α →
    List Write → List (Event DB Oracle Stmt) → α → List Write → Prop where
  | done (a : α) (W : List Write) : Ran D now (.pure a) W [] a W
  | exec {s k W o db v ws es a W'} (h : D.eval s o now (D.view db W) = .ok (v, ws))
      (hk : Ran D now (k (.ok v)) (W ++ ws) es a W') :
      Ran D now (.exec s k) W (⟨s, o, db⟩ :: es) a W'

namespace Ran

variable {D : Database DB Write Lock Err Oracle Stmt Val} {now : ℤ} {W W' : List Write}
variable {es : List (Event DB Oracle Stmt)}

theorem of_pure {a b : α} (h : Ran D now (pure a : Prog Stmt Val Err ε α) W es b W') :
    es = [] ∧ b = a ∧ W' = W := by
  cases h
  exact ⟨rfl, rfl, rfl⟩

theorem not_throw {e : ε} {a : α} : ¬ Ran D now (.throw e : Prog Stmt Val Err ε α) W es a W' := by
  intro h
  cases h

/-- **Sequencing.** -/
theorem of_bind {p : Prog Stmt Val Err ε α} {f : α → Prog Stmt Val Err ε β} {b : β}
    (h : Ran D now (p >>= f) W es b W') : ∃ es₁ es₂ a W₁, es = es₁ ++ es₂ ∧
      Ran D now p W es₁ a W₁ ∧ Ran D now (f a) W₁ es₂ b W' := by
  change Ran D now (p.bind f) W es b W' at h
  induction p generalizing W es with
  | pure a => exact ⟨[], es, a, W, rfl, .done a W, h⟩
  | throw e => exact absurd h not_throw
  | exec s k ih =>
    cases h with
    | exec he hk =>
      obtain ⟨es₁, es₂, a, W₁, rfl, h₁, h₂⟩ := ih _ hk
      exact ⟨_ :: es₁, es₂, a, W₁, rfl, .exec he h₁, h₂⟩

theorem of_map {p : Prog Stmt Val Err ε α} {f : α → β} {b : β} (h : Ran D now (f <$> p) W es b W') :
    ∃ a, f a = b ∧ Ran D now p W es a W' := by
  obtain ⟨es₁, es₂, a, W₁, rfl, h₁, h₂⟩ := of_bind h
  obtain ⟨rfl, rfl, rfl⟩ := of_pure h₂
  exact ⟨a, rfl, by rwa [List.append_nil]⟩

theorem of_mapErr {p : Prog Stmt Val Err ε α} {g : ε → ε'} {a : α}
    (h : Ran D now (p.mapErr g) W es a W') : Ran D now p W es a W' := by
  induction p generalizing W es with
  | pure b =>
    obtain ⟨rfl, rfl, rfl⟩ := of_pure h
    exact .done _ _
  | throw e => exact absurd h not_throw
  | exec s k ih =>
    cases h with
    | exec he hk => exact .exec he (ih _ hk)

theorem of_query {lift : Err → ε} {s : Stmt} {v : Val s}
    (h : Ran D now (Prog.query lift s) W es v W') : ∃ o db ws, es = [⟨s, o, db⟩] ∧
      D.eval s o now (D.view db W) = .ok (v, ws) ∧ W' = W ++ ws := by
  cases h with
  | exec he hk =>
    obtain ⟨rfl, rfl, rfl⟩ := of_pure hk
    exact ⟨_, _, _, rfl, he, rfl⟩

theorem of_attempt {s : Stmt} {r : Except Err (Val s)}
    (h : Ran D now (Prog.attempt s : Prog Stmt Val Err ε _) W es r W') :
    ∃ o db v ws, es = [⟨s, o, db⟩] ∧ D.eval s o now (D.view db W) = .ok (v, ws) ∧ r = .ok v ∧
      W' = W ++ ws := by
  cases h with
  | exec he hk =>
    obtain ⟨rfl, rfl, rfl⟩ := of_pure hk
    exact ⟨_, _, _, _, rfl, he, rfl, rfl⟩

theorem of_refuse {bad : Prop} [Decidable bad] {e : ε} {u : PUnit}
    (h : Ran D now (Prog.refuse bad e : Prog Stmt Val Err ε PUnit) W es u W') :
    es = [] ∧ ¬ bad ∧ W' = W := by
  by_cases hb : bad
  · rw [Prog.refuse, if_pos hb] at h
    exact absurd h not_throw
  · rw [Prog.refuse, if_neg hb] at h
    obtain ⟨rfl, -, rfl⟩ := of_pure h
    exact ⟨rfl, hb, rfl⟩

theorem of_require {x : Option α} {e : ε} {a : α}
    (h : Ran D now (Prog.require x e : Prog Stmt Val Err ε α) W es a W') :
    es = [] ∧ x = some a ∧ W' = W := by
  cases x with
  | none => exact absurd h not_throw
  | some b =>
    obtain ⟨rfl, rfl, rfl⟩ := of_pure h
    exact ⟨rfl, rfl, rfl⟩

theorem of_check {x : Except ε' α} {g : ε' → ε} {a : α}
    (h : Ran D now (Prog.check x g : Prog Stmt Val Err ε α) W es a W') :
    es = [] ∧ x = .ok a ∧ W' = W := by
  cases x with
  | error e => exact absurd h not_throw
  | ok b =>
    obtain ⟨rfl, rfl, rfl⟩ := of_pure h
    exact ⟨rfl, rfl, rfl⟩

/-- What ran are statements of the program. -/
theorem only {ok : Stmt → Prop} {p : Prog Stmt Val Err ε α} (hp : p.Only ok) {a : α}
    (h : Ran D now p W es a W') : ∀ e ∈ es, ok e.stmt := by
  induction h with
  | done a W => exact fun e he => absurd he List.not_mem_nil
  | exec he hk ih =>
    intro e hmem
    rcases List.mem_cons.mp hmem with rfl | hmem
    · exact hp.stmt
    · exact ih (hp.next _) e hmem

/-- What is written is what its statements write. -/
theorem wrote {ok : Stmt → Prop} {P : Write → Prop} {p : Prog Stmt Val Err ε α} (hp : p.Only ok)
    (hok : ∀ {s o db v ws}, ok s → D.eval s o now db = .ok (v, ws) → ∀ w ∈ ws, P w) {a : α}
    (h : Ran D now p W es a W') (hW : ∀ w ∈ W, P w) : ∀ w ∈ W', P w := by
  induction h with
  | done a W => exact hW
  | exec he hk ih =>
    refine ih (hp.next _) (fun w hw => ?_)
    rcases List.mem_append.mp hw with hold | hnew
    · exact hW w hold
    · exact hok hp.stmt he w hnew

end Ran

/-! ### The system with histories -/

/-- A state, and what each live transaction has run so far. -/
structure Logged (DB Write Lock Err Oracle Stmt : Type) (Val : Stmt → Type) (Req ε α : Type) where
  state : State DB Write Lock Err Stmt Val Req ε α
  log : ℕ → List (Event DB Oracle Stmt)

/-- Nobody is connected. -/
def Logged.quiet (db : DB) : Logged DB Write Lock Err Oracle Stmt Val Req ε α :=
  ⟨State.quiet db, fun _ => []⟩

@[simp] theorem Logged.quiet_state (db : DB) :
    (Logged.quiet db : Logged DB Write Lock Err Oracle Stmt Val Req ε α).state = State.quiet db :=
  rfl

section System

variable (D : Database DB Write Lock Err Oracle Stmt Val)
variable (program : Req → Prog Stmt Val Err ε α)

/-- One step with histories; a committing step carries its transaction and the request. -/
inductive LStep : Logged DB Write Lock Err Oracle Stmt Val Req ε α → Option (ℕ × Req) →
    Logged DB Write Lock Err Oracle Stmt Val Req ε α → Prop where
  | start {l} (i : ℕ) (r : Req) (now : ℤ) (free : l.state.txs i = none) :
      LStep l none ⟨⟨l.state.db, Function.update l.state.txs i (some (Txn.start program r now))⟩,
        Function.update l.log i []⟩
  | exec {l} (i : ℕ) {t st k} (o : Oracle) (live : l.state.txs i = some t)
      (next : t.prog = .exec st k) (fine : t.failed = false)
      (free : l.state.Free D i (D.locks st o t.now (D.view l.state.db t.writes))) :
      LStep l none
        ⟨⟨l.state.db, Function.update l.state.txs i (some (t.run D l.state.db st k o))⟩,
          Function.update l.log i (l.log i ++ [⟨st, o, l.state.db⟩])⟩
  | refused {l} (i : ℕ) {t st k} (live : l.state.txs i = some t)
      (next : t.prog = .exec st k) (bad : t.failed = true) :
      LStep l none ⟨⟨l.state.db, Function.update l.state.txs i
        (some { t with prog := k (.error D.aborted) })⟩, l.log⟩
  | commit {l} (i : ℕ) {t a} (live : l.state.txs i = some t) (done : t.prog = .pure a)
      (fine : t.failed = false) :
      LStep l (some (i, t.req))
        ⟨⟨D.view l.state.db t.writes, Function.update l.state.txs i none⟩, l.log⟩
  | abort {l} (i : ℕ) {t} (live : l.state.txs i = some t) :
      LStep l none ⟨⟨l.state.db, Function.update l.state.txs i none⟩, l.log⟩

/-- A step with histories is a step. -/
theorem LStep.step {l l' : Logged DB Write Lock Err Oracle Stmt Val Req ε α}
    {lab : Option (ℕ × Req)} (h : LStep D program l lab l') :
    Step D program l.state (lab.map Prod.snd) l'.state := by
  cases h with
  | start i r now free => exact .start i r now free
  | exec i o live next fine free => exact .exec i o live next fine free
  | refused i live next bad => exact .refused i live next bad
  | commit i live done fine => exact .commit i live done fine
  | abort i live => exact .abort i live

/-- A step that commits: the transaction it ends, and the database after it. -/
theorem LStep.committed {l l' : Logged DB Write Lock Err Oracle Stmt Val Req ε α} {i : ℕ} {r : Req}
    (h : LStep D program l (some (i, r)) l') : ∃ t a, l.state.txs i = some t ∧ t.prog = .pure a ∧
      t.failed = false ∧ t.req = r ∧ l'.state.db = D.view l.state.db t.writes := by
  generalize hlab : some (i, r) = lab at h
  cases h with
  | commit j live done fine =>
    cases hlab
    exact ⟨_, _, live, done, fine, rfl, rfl⟩
  | _ => cases hlab

/-- Every step can be taken with histories. -/
theorem LStep.of_step {s s' : State DB Write Lock Err Stmt Val Req ε α} {lab : Option Req}
    (h : Step D program s lab s') (log : ℕ → List (Event DB Oracle Stmt)) :
    ∃ lab' log', LStep D program ⟨s, log⟩ lab' ⟨s', log'⟩ := by
  cases h with
  | start i r now free => exact ⟨_, _, .start (l := ⟨s, log⟩) i r now free⟩
  | exec i o live next fine free => exact ⟨_, _, .exec (l := ⟨s, log⟩) i o live next fine free⟩
  | refused i live next bad => exact ⟨_, _, .refused (l := ⟨s, log⟩) i live next bad⟩
  | commit i live done fine => exact ⟨_, _, .commit (l := ⟨s, log⟩) i live done fine⟩
  | abort i live => exact ⟨_, _, .abort (l := ⟨s, log⟩) i live⟩

/-- The states reached with histories from `l₀`, and the requests committed on the way.  Every
commit meets `ok`, a condition on the state before it, its transaction and its request. -/
inductive LRun (ok : Logged DB Write Lock Err Oracle Stmt Val Req ε α → ℕ → Req → Prop)
    (l₀ : Logged DB Write Lock Err Oracle Stmt Val Req ε α) :
    List Req → Logged DB Write Lock Err Oracle Stmt Val Req ε α → Prop where
  | refl : LRun ok l₀ [] l₀
  | quiet {rs l l'} (hs : LRun ok l₀ rs l) (h : LStep D program l none l') : LRun ok l₀ rs l'
  | commit {rs l l' i r} (hs : LRun ok l₀ rs l) (h : LStep D program l (some (i, r)) l')
      (hok : ok l i r) : LRun ok l₀ (rs ++ [r]) l'

/-- Any commit will do. -/
def always (_ : Logged DB Write Lock Err Oracle Stmt Val Req ε α) (_ : ℕ) (_ : Req) : Prop := True

variable {D program}
variable {ok : Logged DB Write Lock Err Oracle Stmt Val Req ε α → ℕ → Req → Prop}
variable {l₀ l l' : Logged DB Write Lock Err Oracle Stmt Val Req ε α} {rs : List Req}

/-- A run with histories is a run. -/
theorem LRun.run (h : LRun D program ok l₀ rs l) : Run D program anyCommit l₀.state l.state := by
  induction h with
  | refl => exact Run.refl
  | quiet _ h ih => exact ih.step (h.step D program) (fun _ _ => trivial)
  | commit _ h _ ih => exact ih.step (h.step D program) (fun _ _ => trivial)

/-- **Every run has its histories.** -/
theorem LRun.of_run {ok' : DB → Req → Prop} {s₀ s : State DB Write Lock Err Stmt Val Req ε α}
    (h : Run D program ok' s₀ s) (log : ℕ → List (Event DB Oracle Stmt)) :
    ∃ rs log', LRun D program always ⟨s₀, log⟩ rs ⟨s, log'⟩ := by
  induction h with
  | refl => exact ⟨[], log, .refl⟩
  | step _ h _ ih =>
    obtain ⟨rs, log₁, hrun⟩ := ih
    obtain ⟨lab, log₂, hstep⟩ := LStep.of_step D program h log₁
    cases lab with
    | none => exact ⟨rs, log₂, hrun.quiet hstep⟩
    | some ir =>
      obtain ⟨i, r⟩ := ir
      exact ⟨_, log₂, hrun.commit hstep trivial⟩

/-- Invariants of steps hold along runs. -/
theorem LRun.invariant {P : Logged DB Write Lock Err Oracle Stmt Val Req ε α → Prop} (h₀ : P l₀)
    (hstep : ∀ {l lab l'}, P l → LStep D program l lab l' →
      (∀ i r, lab = some (i, r) → ok l i r) → P l')
    (h : LRun D program ok l₀ rs l) : P l := by
  induction h with
  | refl => exact h₀
  | quiet _ h ih => exact hstep ih h (fun i r hl => by cases hl)
  | commit _ h hok ih =>
    refine hstep ih h (fun i r hl => ?_)
    cases hl
    exact hok

/-! ### What has run -/

variable (D program) in
/-- Whatever a live transaction's rest does, its whole program did from its history on. -/
def Told (l : Logged DB Write Lock Err Oracle Stmt Val Req ε α) : Prop :=
  ∀ i t, l.state.txs i = some t → t.failed = false → ∀ rest a W,
    Ran D t.now t.prog t.writes rest a W → Ran D t.now (program t.req) [] (l.log i ++ rest) a W

theorem Told.step (ht : Told D program l) {lab : Option (ℕ × Req)}
    (h : LStep D program l lab l') : Told D program l' := by
  cases h with
  | start i r now free =>
    intro j u hu hf rest a W hr
    rcases live_update hu with ⟨rfl, rfl⟩ | ⟨hj, hu⟩
    · simp only [Function.update_self]
      exact hr
    · simp only [Function.update_of_ne hj]
      exact ht j u hu hf rest a W hr
  | @exec i t st k o live next fine free =>
    intro j u hu hf rest a W hr
    rcases live_update hu with ⟨rfl, rfl⟩ | ⟨hj, hu⟩
    · simp only [Function.update_self]
      cases he : D.eval st o t.now (D.view l.state.db t.writes) with
      | error e =>
        simp only [Txn.run, he] at hf
        cases hf
      | ok res =>
        simp only [Txn.run, he] at hr ⊢
        rw [List.append_assoc]
        refine ht j t live fine _ a W ?_
        rw [next]
        exact .exec he hr
    · simp only [Function.update_of_ne hj]
      exact ht j u hu hf rest a W hr
  | @refused i t st k live next bad =>
    intro j u hu hf rest a W hr
    rcases live_update hu with ⟨rfl, rfl⟩ | ⟨hj, hu⟩
    · rw [bad] at hf
      cases hf
    · exact ht j u hu hf rest a W hr
  | @commit i t a live done fine =>
    intro j u hu hf rest b W hr
    exact ht j u (live_end hu).2 hf rest b W hr
  | @abort i t live =>
    intro j u hu hf rest b W hr
    exact ht j u (live_end hu).2 hf rest b W hr

theorem told_quiet (db : DB) :
    Told D program (Logged.quiet db : Logged DB Write Lock Err Oracle Stmt Val Req ε α) := by
  intro i t ht
  cases ht

/-- **What a commit has run.** -/
theorem Told.commit (ht : Told D program l) {i : ℕ} {t : Txn Write Lock Err Stmt Val Req ε α} {a : α}
    (live : l.state.txs i = some t) (done : t.prog = .pure a) (fine : t.failed = false) :
    Ran D t.now (program t.req) [] (l.log i) a t.writes := by
  have h := ht i t live fine [] a t.writes
  rw [done, List.append_nil] at h
  exact h (.done a t.writes)

theorem LRun.told {db₀ : DB} (h : LRun D program ok (Logged.quiet db₀) rs l) : Told D program l :=
  h.invariant (told_quiet db₀) (fun ht hs _ => ht.step hs)

/-! ### Locks -/

/-- No two live transactions hold conflicting locks: the part of soundness that holds of every
system. -/
def anything (D : Database DB Write Lock Err Oracle Stmt Val) (Req : Type) : RelyGuarantee D Req where
  Op _ _ _ _ := True
  Rely _ _ _ := True
  refl _ _ := trivial
  trans _ _ := trivial
  guarantee _ _ := trivial

theorem anything_verified : (anything D Req).Verified program := by
  have hwp : ∀ (now : ℤ) (r : Req) (p : Prog Stmt Val Err ε α) L W db,
      (anything D Req).wp now p ((anything D Req).commits r) L W db := by
    intro now r p
    induction p with
    | pure a =>
      intro L W db db' _
      trivial
    | throw e =>
      intro L W db
      trivial
    | exec s k ih =>
      intro L W db db' _ o v ws _
      exact ih _ _ _ _
  exact fun r now db => hwp now r _ _ _ _

theorem LRun.apart {db₀ : DB} (h : LRun D program ok (Logged.quiet db₀) rs l) {i j : ℕ}
    {t u : Txn Write Lock Err Stmt Val Req ε α} (hne : i ≠ j) (ht : l.state.txs i = some t)
    (hu : l.state.txs j = some u) : D.Compatible t.locks u.locks :=
  (((anything D Req).sound_quiet db₀).run anything_verified h.run).apart i j t u hne ht hu

end System

end ReadCommitted

import Mathlib.Logic.Function.Basic
import Mathlib.Data.Int.Notation
import Mathlib.Data.Nat.Notation

/-!
# READ COMMITTED transactions: programs of statements and their interleavings

A server handler talks to its database one statement at a time and branches on what it reads.
This file gives that shape once, over any database:

* `Prog` is a program over statements: it ends in a value (commit) or an error (rollback), or
  asks for one statement and continues with its result;
* `Database` says what a statement does: `eval` reads the rows visible to the transaction
  (everything committed when the statement starts, plus the transaction's own writes) and
  answers with a value and new writes, or with an error; `locks` are the row, index-entry and
  constraint locks it needs, and `conflict` says which locks exclude each other;
* `Step` interleaves any number of transactions at statement granularity: a statement runs only
  when no other live transaction holds a conflicting lock, locks are kept to the end, nothing is
  visible to others before the commit, and any transaction may be rolled back at any moment (a
  dropped connection, a timeout, a deadlock victim);
* a statement that fails poisons its transaction: every later statement of it fails too, and it
  can only be rolled back;
* `Run` is a run of the system from any state and `Reachable` one from a quiet database; each
  carries a condition that every commit of the run meets;
* `alone` runs one program with nobody else connected, and `Run.serve` embeds such a
  serial run into the interleaved system; `runFrom` does so with a supply of oracles, one for each
  statement, and tells how the run ended.

A statement reads one snapshot, taken when it starts; a statement that waits for a lock is the
same as one that starts when the lock is free, because it re-reads the row it waited for.
-/

set_option autoImplicit false

namespace ReadCommitted

variable {DB Write Lock Err Oracle Stmt Req ε ε' α β : Type} {Val : Stmt → Type}

/-! ### Programs -/

/-- A handler: commit with a value, roll back with an error, or run a statement and go on. -/
inductive Prog (Stmt : Type) (Val : Stmt → Type) (Err ε α : Type) : Type where
  | pure (a : α)
  | throw (e : ε)
  | exec (s : Stmt) (k : Except Err (Val s) → Prog Stmt Val Err ε α)

namespace Prog

/-- Run `p`, then `f` on its value; an error of `p` ends the whole program. -/
def bind : Prog Stmt Val Err ε α → (α → Prog Stmt Val Err ε β) → Prog Stmt Val Err ε β
  | .pure a, f => f a
  | .throw e, _ => .throw e
  | .exec s k, f => .exec s (fun r => (k r).bind f)

instance : Monad (Prog Stmt Val Err ε) where
  pure := Prog.pure
  bind := Prog.bind

/-- Reword the error a program ends with. -/
def mapErr (g : ε → ε') : Prog Stmt Val Err ε α → Prog Stmt Val Err ε' α
  | .pure a => .pure a
  | .throw e => .throw (g e)
  | .exec s k => .exec s (fun r => (k r).mapErr g)

/-- One statement; its error ends the program. -/
def query (lift : Err → ε) (s : Stmt) : Prog Stmt Val Err ε (Val s) :=
  .exec s (fun r => match r with
    | .ok v => .pure v
    | .error e => .throw (lift e))

/-- Its error can be reworded at once. -/
theorem mapErr_query (g : ε → ε') (lift : Err → ε) (s : Stmt) :
    (query lift s : Prog Stmt Val Err ε (Val s)).mapErr g = query (fun e => g (lift e)) s := by
  simp only [query, mapErr]
  congr 1
  funext r
  cases r <;> rfl

/-- One statement whose error the program looks at itself. -/
def attempt (s : Stmt) : Prog Stmt Val Err ε (Except Err (Val s)) := .exec s .pure

/-- End with `e` when `bad` holds. -/
def refuse (bad : Prop) [Decidable bad] (e : ε) : Prog Stmt Val Err ε PUnit :=
  if bad then .throw e else .pure ⟨⟩

/-- Use an optional value, or end with `e`. -/
def require (x : Option α) (e : ε) : Prog Stmt Val Err ε α :=
  match x with
  | some a => .pure a
  | none => .throw e

/-- Use a checked value, or end with its reworded error. -/
def check (x : Except ε' α) (g : ε' → ε) : Prog Stmt Val Err ε α :=
  match x with
  | .ok a => .pure a
  | .error e => .throw (g e)

end Prog

/-! ### The database -/

/-- What statements do, which locks they take and which locks exclude each other. -/
structure Database (DB Write Lock Err Oracle Stmt : Type) (Val : Stmt → Type) where
  /-- the effect of one committed write -/
  apply : DB → Write → DB
  /-- a statement of a transaction started at the given instant, on the rows it sees; the oracle
  supplies what the database does not determine (clocks, random bytes, scan order) -/
  eval : (s : Stmt) → Oracle → ℤ → DB → Except Err (Val s × List Write)
  /-- the locks the statement needs, read off the rows it sees -/
  locks : Stmt → Oracle → ℤ → DB → List Lock
  conflict : Lock → Lock → Bool
  conflict_comm : ∀ l l', conflict l l' = conflict l' l
  /-- the error of a statement in a transaction that has already failed -/
  aborted : Err

namespace Database

variable (D : Database DB Write Lock Err Oracle Stmt Val)

/-- The rows a transaction with pending writes `W` sees. -/
def view (db : DB) (W : List Write) : DB := W.foldl D.apply db

@[simp] theorem view_nil (db : DB) : D.view db [] = db := rfl

theorem view_append (db : DB) (W W' : List Write) :
    D.view db (W ++ W') = D.view (D.view db W) W' := List.foldl_append

/-- No lock of `L` excludes a lock of `L'`. -/
def Compatible (L L' : List Lock) : Prop := ∀ l ∈ L, ∀ l' ∈ L', D.conflict l l' = false

theorem Compatible.symm {D : Database DB Write Lock Err Oracle Stmt Val} {L L' : List Lock}
    (h : D.Compatible L L') : D.Compatible L' L := by
  intro l' hl' l hl
  rw [D.conflict_comm]
  exact h l hl l' hl'

theorem Compatible.append_left {D : Database DB Write Lock Err Oracle Stmt Val}
    {L₁ L₂ L' : List Lock} (h₁ : D.Compatible L₁ L') (h₂ : D.Compatible L₂ L') :
    D.Compatible (L₁ ++ L₂) L' := by
  intro l hl
  rcases List.mem_append.mp hl with hl | hl
  · exact h₁ l hl
  · exact h₂ l hl

end Database

/-! ### Interleaved transactions -/

/-- A live transaction: the request it serves, the instant it started, what is left of its
program, its pending writes, the locks it holds, and whether one of its statements failed. -/
structure Txn (Write Lock Err Stmt : Type) (Val : Stmt → Type) (Req ε α : Type) where
  req : Req
  now : ℤ
  prog : Prog Stmt Val Err ε α
  writes : List Write
  locks : List Lock
  failed : Bool

/-- The committed rows and the live transactions. -/
structure State (DB Write Lock Err Stmt : Type) (Val : Stmt → Type) (Req ε α : Type) where
  db : DB
  txs : ℕ → Option (Txn Write Lock Err Stmt Val Req ε α)

/-- A database nobody is connected to. -/
def State.quiet (db : DB) : State DB Write Lock Err Stmt Val Req ε α := ⟨db, fun _ => none⟩

@[simp] theorem State.quiet_db (db : DB) :
    (State.quiet db : State DB Write Lock Err Stmt Val Req ε α).db = db := rfl

/-- Who is live when transaction `i` has moved: that one as it is now, or another. -/
theorem live_update {τ : Type} {txs : ℕ → Option τ} {i j : ℕ} {t u : τ}
    (h : Function.update txs i (some t) j = some u) : (j = i ∧ t = u) ∨ (j ≠ i ∧ txs j = some u) := by
  by_cases hj : j = i
  · subst hj
    rw [Function.update_self] at h
    exact Or.inl ⟨rfl, Option.some.inj h⟩
  · rw [Function.update_of_ne hj] at h
    exact Or.inr ⟨hj, h⟩

/-- Who is live when transaction `i` has ended. -/
theorem live_end {τ : Type} {txs : ℕ → Option τ} {i j : ℕ} {u : τ}
    (h : Function.update txs i none j = some u) : j ≠ i ∧ txs j = some u := by
  by_cases hj : j = i
  · subst hj
    rw [Function.update_self] at h
    cases h
  · rw [Function.update_of_ne hj] at h
    exact ⟨hj, h⟩

section System

variable (D : Database DB Write Lock Err Oracle Stmt Val)
variable (program : Req → Prog Stmt Val Err ε α)

/-- A transaction as it begins. -/
def Txn.start (r : Req) (now : ℤ) : Txn Write Lock Err Stmt Val Req ε α :=
  ⟨r, now, program r, [], [], false⟩

/-- The transaction after running statement `st` with continuation `k`. -/
def Txn.run (t : Txn Write Lock Err Stmt Val Req ε α) (db : DB) (st : Stmt)
    (k : Except Err (Val st) → Prog Stmt Val Err ε α) (o : Oracle) :
    Txn Write Lock Err Stmt Val Req ε α :=
  let held := t.locks ++ D.locks st o t.now (D.view db t.writes)
  match D.eval st o t.now (D.view db t.writes) with
  | .ok (v, ws) => { t with prog := k (.ok v), writes := t.writes ++ ws, locks := held }
  | .error e => { t with prog := k (.error e), locks := held, failed := true }

/-- It is the same request that is served. -/
theorem Txn.run_req (t : Txn Write Lock Err Stmt Val Req ε α) (db : DB) (st : Stmt)
    (k : Except Err (Val st) → Prog Stmt Val Err ε α) (o : Oracle) : (t.run D db st k o).req = t.req := by
  unfold Txn.run
  cases D.eval st o t.now (D.view db t.writes) <;> rfl

/-- The locks `L` are free for transaction `i`. -/
def State.Free (s : State DB Write Lock Err Stmt Val Req ε α) (i : ℕ) (L : List Lock) : Prop :=
  ∀ j u, j ≠ i → s.txs j = some u → D.Compatible L u.locks

/-- One step of the system; a committing step carries the request it served. -/
inductive Step : State DB Write Lock Err Stmt Val Req ε α → Option Req →
    State DB Write Lock Err Stmt Val Req ε α → Prop where
  | start {s} (i : ℕ) (r : Req) (now : ℤ) (free : s.txs i = none) :
      Step s none { s with txs := Function.update s.txs i (some (Txn.start program r now)) }
  | exec {s} (i : ℕ) {t st k} (o : Oracle) (live : s.txs i = some t)
      (next : t.prog = .exec st k) (fine : t.failed = false)
      (free : s.Free D i (D.locks st o t.now (D.view s.db t.writes))) :
      Step s none { s with txs := Function.update s.txs i (some (t.run D s.db st k o)) }
  | refused {s} (i : ℕ) {t st k} (live : s.txs i = some t)
      (next : t.prog = .exec st k) (bad : t.failed = true) :
      Step s none { s with
        txs := Function.update s.txs i (some { t with prog := k (.error D.aborted) }) }
  | commit {s} (i : ℕ) {t a} (live : s.txs i = some t) (done : t.prog = .pure a)
      (fine : t.failed = false) :
      Step s (some t.req) ⟨D.view s.db t.writes, Function.update s.txs i none⟩
  | abort {s} (i : ℕ) {t} (live : s.txs i = some t) :
      Step s none { s with txs := Function.update s.txs i none }

/-- Only a commit changes committed rows. -/
theorem Step.db_eq {s s' : State DB Write Lock Err Stmt Val Req ε α}
    (h : Step D program s none s') : s'.db = s.db := by
  cases h <;> rfl

/-- The states reached from `s₀` by runs in which every commit meets `ok`, a condition on the
committed rows before it and on the request it serves. -/
inductive Run (ok : DB → Req → Prop) (s₀ : State DB Write Lock Err Stmt Val Req ε α) :
    State DB Write Lock Err Stmt Val Req ε α → Prop where
  | refl : Run ok s₀ s₀
  | step {s s' lab} (hs : Run ok s₀ s) (h : Step D program s lab s')
      (hok : ∀ r, lab = some r → ok s.db r) : Run ok s₀ s'

/-- The states reached from the rows `db₀` with nobody connected. -/
abbrev Reachable (ok : DB → Req → Prop) (db₀ : DB) :
    State DB Write Lock Err Stmt Val Req ε α → Prop := Run D program ok (State.quiet db₀)

/-- A run whose commits meet a stronger condition. -/
theorem Run.mono {ok ok' : DB → Req → Prop} {s₀ s : State DB Write Lock Err Stmt Val Req ε α}
    (h : Run D program ok s₀ s) (hok : ∀ db r, ok db r → ok' db r) : Run D program ok' s₀ s := by
  induction h with
  | refl => exact Run.refl
  | step _ h hr ih => exact Run.step ih h (fun r hl => hok _ r (hr r hl))

/-- The condition every commit meets. -/
def anyCommit (_ : DB) (_ : Req) : Prop := True

/-! ### One program at a time -/

/-- Run a program with nobody else connected: its answer and the writes it commits. -/
def alone (o : Oracle) (now : ℤ) (db : DB) :
    Prog Stmt Val Err ε α → List Write → Bool → Except ε α × List Write
  | .pure a, W, failed => (.ok a, if failed then [] else W)
  | .throw e, _, _ => (.error e, [])
  | .exec s k, W, failed =>
    if failed then alone o now db (k (.error D.aborted)) W true
    else match D.eval s o now (D.view db W) with
      | .ok (v, ws) => alone o now db (k (.ok v)) (W ++ ws) false
      | .error e => alone o now db (k (.error e)) W true

/-- How a run ended: its result, what is left of the supply, its writes and whether a statement
failed. -/
structure Outcome (Write ε σ α : Type) where
  result : Except ε α
  supply : σ
  writes : List Write
  failed : Bool

/-- The writes that are committed. -/
def Outcome.committed {σ : Type} (x : Outcome Write ε σ α) : List Write :=
  match x.result with
  | .ok _ => if x.failed then [] else x.writes
  | .error _ => []

/-- Run a program with nobody else connected, each statement taking its oracle from a supply. -/
def runFrom {σ : Type} (supply : Stmt → σ → Oracle × σ) (now : ℤ) (db : DB) :
    Prog Stmt Val Err ε α → σ → List Write → Bool → Outcome Write ε σ α
  | .pure a, x, W, failed => ⟨.ok a, x, W, failed⟩
  | .throw e, x, W, failed => ⟨.error e, x, W, failed⟩
  | .exec s k, x, W, failed =>
    if failed then runFrom supply now db (k (.error D.aborted)) x W true
    else match D.eval s (supply s x).1 now (D.view db W) with
      | .ok (v, ws) => runFrom supply now db (k (.ok v)) (supply s x).2 (W ++ ws) false
      | .error e => runFrom supply now db (k (.error e)) (supply s x).2 W true

/-- One oracle is the supply that never runs out. -/
theorem alone_eq (o : Oracle) (now : ℤ) (db : DB) (p : Prog Stmt Val Err ε α) (W : List Write)
    (failed : Bool) : alone D o now db p W failed
      = ((runFrom D (fun _ x => (o, x)) now db p PUnit.unit W failed).result,
        (runFrom D (fun _ x => (o, x)) now db p PUnit.unit W failed).committed) := by
  induction p generalizing W failed with
  | pure a => rfl
  | throw e => rfl
  | exec s k ih =>
    rw [alone, runFrom]
    cases failed with
    | true => exact ih _ _ _
    | false =>
      cases D.eval s o now (D.view db W) with
      | ok res =>
        simp only [Bool.false_eq_true, if_false]
        exact ih _ _ _
      | error e =>
        simp only [Bool.false_eq_true, if_false]
        exact ih _ _ _

/-- The answer of a program run alone. -/
def answer (o : Oracle) (now : ℤ) (db : DB) (p : Prog Stmt Val Err ε α) : Except ε α :=
  (alone D o now db p [] false).1

/-- `p` reads its way to `a`: none of its statements fails or writes. -/
inductive Reads (o : Oracle) (now : ℤ) (db : DB) : Prog Stmt Val Err ε α → α → Prop where
  | pure (a : α) : Reads o now db (.pure a) a
  | exec {s k v a} (h : D.eval s o now db = .ok (v, [])) (hk : Reads o now db (k (.ok v)) a) :
      Reads o now db (.exec s k) a

section Reads

variable {D} {o : Oracle} {now : ℤ} {db : DB}

theorem Reads.query {lift : Err → ε} {s : Stmt} {v : Val s} (h : D.eval s o now db = .ok (v, [])) :
    Reads D o now db (Prog.query lift s) v :=
  .exec h (.pure v)

theorem Reads.bind {p : Prog Stmt Val Err ε α} {f : α → Prog Stmt Val Err ε β} {a : α} {b : β}
    (h : Reads D o now db p a) (hf : Reads D o now db (f a) b) : Reads D o now db (p >>= f) b := by
  induction h with
  | pure a => exact hf
  | exec h hk ih => exact .exec h (ih hf)

theorem Reads.mapErr {p : Prog Stmt Val Err ε α} {a : α} (g : ε → ε') (h : Reads D o now db p a) :
    Reads D o now db (p.mapErr g) a := by
  induction h with
  | pure a => exact .pure a
  | exec h hk ih => exact .exec h ih

/-- After reading, the rest of the program runs on the same rows. -/
theorem Reads.alone_bind {p : Prog Stmt Val Err ε α} {f : α → Prog Stmt Val Err ε β} {a : α}
    (h : Reads D o now db p a) : alone D o now db (p >>= f) [] false = alone D o now db (f a) [] false := by
  induction h with
  | pure a => rfl
  | @exec s k v a h hk ih =>
    rw [← ih]
    show alone D o now db (.exec s (fun r => (k r).bind f)) [] false = _
    simp only [alone, Bool.false_eq_true, if_false, Database.view_nil, h]
    rfl

theorem Reads.answer_bind {p : Prog Stmt Val Err ε α} {f : α → Prog Stmt Val Err ε β} {a : α}
    (h : Reads D o now db p a) : answer D o now db (p >>= f) = answer D o now db (f a) :=
  congrArg Prod.fst h.alone_bind

/-- One statement on its own. -/
theorem alone_query {lift : Err → ε} {s : Stmt} :
    alone D o now db (Prog.query lift s : Prog Stmt Val Err ε (Val s)) [] false
      = match D.eval s o now db with
        | .ok (v, ws) => (.ok v, ws)
        | .error e => (.error (lift e), []) := by
  simp only [Prog.query, alone, Database.view_nil, Bool.false_eq_true, if_false]
  split <;> rfl

/-- One statement, and what comes after it. -/
theorem alone_query_bind {lift : Err → ε} {s : Stmt} {f : Val s → Prog Stmt Val Err ε β}
    (W : List Write) : alone D o now db (Prog.query lift s >>= f) W false
      = match D.eval s o now (D.view db W) with
        | .ok (v, ws) => alone D o now db (f v) (W ++ ws) false
        | .error e => (.error (lift e), []) := by
  show alone D o now db ((Prog.query lift s).bind f) W false = _
  simp only [Prog.query, Prog.bind, alone, Bool.false_eq_true, if_false]

/-- A statement that fails, and what is done with its failure. -/
theorem answer_failed {lift : Err → ε} {s : Stmt} {e : Err} (h : D.eval s o now db = .error e)
    (g : ε → ε') (f : Val s → Prog Stmt Val Err ε' β) :
    ReadCommitted.answer D o now db ((Prog.query lift s).mapErr g >>= f) = .error (g (lift e)) := by
  rw [ReadCommitted.answer, Prog.mapErr_query, alone_query_bind, Database.view_nil, h]

/-- What becomes of an answer changes nothing for what is written. -/
theorem alone_map (f : α → β) (p : Prog Stmt Val Err ε α) (W : List Write) (failed : Bool) :
    (alone D o now db (f <$> p) W failed).2 = (alone D o now db p W failed).2 := by
  show (alone D o now db (p.bind (fun a => .pure (f a))) W failed).2 = _
  induction p generalizing W failed with
  | pure a => rfl
  | throw e => rfl
  | exec s k ih =>
    simp only [Prog.bind, alone]
    split
    · exact ih _ _ _
    · split
      · exact ih _ _ _
      · exact ih _ _ _

/-- What becomes of an error changes nothing else. -/
theorem alone_mapErr (g : ε → ε') (p : Prog Stmt Val Err ε α) (W : List Write) (failed : Bool) :
    alone D o now db (p.mapErr g) W failed
      = ((alone D o now db p W failed).1.mapError g, (alone D o now db p W failed).2) := by
  induction p generalizing W failed with
  | pure a => rfl
  | throw e => rfl
  | exec s k ih =>
    simp only [Prog.mapErr, alone]
    split
    · exact ih _ _ _
    · split
      · exact ih _ _ _
      · exact ih _ _ _

theorem Reads.answer {p : Prog Stmt Val Err ε α} {a : α} (h : Reads D o now db p a) :
    ReadCommitted.answer D o now db p = .ok a := by
  induction h with
  | pure a => rfl
  | @exec s k v a h hk ih =>
    rw [← ih]
    simp only [ReadCommitted.answer, alone, Bool.false_eq_true, if_false, Database.view_nil, h]
    rfl

end Reads

/-- The committed rows after a request is served alone. -/
def serve (db : DB) (c : Req × Oracle × ℤ) : DB :=
  D.view db (alone D c.2.1 c.2.2 db (program c.1) [] false).2

/-- The committed rows after requests are served one after the other. -/
def serveAll (db : DB) (cs : List (Req × Oracle × ℤ)) : DB := cs.foldl (serve D program) db

/-- A lone live transaction. -/
def State.only (db : DB) (t : Txn Write Lock Err Stmt Val Req ε α) :
    State DB Write Lock Err Stmt Val Req ε α :=
  ⟨db, Function.update (fun _ => none) 0 (some t)⟩

@[simp] theorem State.only_db (db : DB) (t : Txn Write Lock Err Stmt Val Req ε α) :
    (State.only db t).db = db := rfl

@[simp] theorem State.only_live (db : DB) (t : Txn Write Lock Err Stmt Val Req ε α) :
    (State.only db t).txs 0 = some t := by
  simp [State.only]

/-- The lone transaction moves on. -/
@[simp] theorem State.only_update (db : DB) (t u : Txn Write Lock Err Stmt Val Req ε α) :
    (⟨db, Function.update (State.only db t).txs 0 (some u)⟩ :
      State DB Write Lock Err Stmt Val Req ε α) = State.only db u := by
  simp [State.only]

/-- The lone transaction ends. -/
@[simp] theorem State.only_end (db db' : DB) (t : Txn Write Lock Err Stmt Val Req ε α) :
    (⟨db', Function.update (State.only db t).txs 0 none⟩ :
      State DB Write Lock Err Stmt Val Req ε α) = State.quiet db' := by
  simp [State.only, State.quiet]

theorem State.only_free (db : DB) (t : Txn Write Lock Err Stmt Val Req ε α) (L : List Lock) :
    (State.only db t).Free D 0 L := by
  intro j u hj hu
  simp [State.only, Function.update_of_ne hj] at hu

/-- The lone transaction may always give up. -/
theorem Run.only_abort {ok : DB → Req → Prop} {s₀ : State DB Write Lock Err Stmt Val Req ε α} {db : DB}
    {t : Txn Write Lock Err Stmt Val Req ε α} (hs : Run D program ok s₀ (State.only db t)) :
    Run D program ok s₀ (State.quiet db) := by
  have h := Run.step hs (Step.abort 0 (State.only_live db t)) (by intro r hr; cases hr)
  simpa only [State.only_db, State.only_end] using h

/-- The lone transaction commits. -/
theorem Run.only_commit {ok : DB → Req → Prop} {s₀ : State DB Write Lock Err Stmt Val Req ε α}
    {db : DB} {t : Txn Write Lock Err Stmt Val Req ε α} {a : α} (done : t.prog = .pure a)
    (fine : t.failed = false) (hok : ok db t.req) (hs : Run D program ok s₀ (State.only db t)) :
    Run D program ok s₀ (State.quiet (D.view db t.writes)) := by
  have h := Run.step hs (Step.commit 0 (State.only_live db t) done fine)
    (by intro r hr; cases hr; exact hok)
  simpa only [State.only_db, State.only_end] using h

/-- A lone transaction at its end: about to commit the writes `W`, or with nothing to commit. -/
def AtEnd (t : Txn Write Lock Err Stmt Val Req ε α) (W : List Write) : Prop :=
  (∃ a, t.prog = .pure a ∧ t.failed = false ∧ t.writes = W) ∨ W = []

/-- At its end it commits, or gives up with nothing to commit. -/
theorem Run.only_close {ok : DB → Req → Prop} {s₀ : State DB Write Lock Err Stmt Val Req ε α} {db : DB}
    {t : Txn Write Lock Err Stmt Val Req ε α} {W : List Write} (ht : AtEnd t W) (hok : ok db t.req)
    (hs : Run D program ok s₀ (State.only db t)) : Run D program ok s₀ (State.quiet (D.view db W)) := by
  rcases ht with ⟨a, done, fine, rfl⟩ | rfl
  · exact hs.only_commit D program done fine hok
  · exact hs.only_abort D program

/-- A lone transaction can run to its end: the run of `runFrom` is a run of the system. -/
theorem Run.only_finishFrom {ok : DB → Req → Prop} {s₀ : State DB Write Lock Err Stmt Val Req ε α}
    {db : DB} {σ : Type} (supply : Stmt → σ → Oracle × σ) {r : Req} {now : ℤ}
    (p : Prog Stmt Val Err ε α) :
    ∀ (x : σ) (W : List Write) (L : List Lock) (failed : Bool),
      Run D program ok s₀ (State.only db ⟨r, now, p, W, L, failed⟩) →
      ∃ t, t.req = r ∧ AtEnd t (runFrom D supply now db p x W failed).committed ∧
        Run D program ok s₀ (State.only db t) := by
  induction p with
  | pure a =>
    intro x W L failed hs
    cases failed with
    | true => exact ⟨_, rfl, Or.inr rfl, hs⟩
    | false => exact ⟨_, rfl, Or.inl ⟨a, rfl, rfl, rfl⟩, hs⟩
  | throw e =>
    intro x W L failed hs
    exact ⟨_, rfl, Or.inr rfl, hs⟩
  | exec st k ih =>
    intro x W L failed hs
    cases failed with
    | true =>
      have h := Run.step hs (Step.refused 0 (State.only_live db _) rfl rfl)
        (by intro r hr; cases hr)
      simp only [State.only_db, State.only_update] at h
      simpa only [runFrom, if_true] using ih _ x W L true h
    | false =>
      have h := Run.step hs
        (Step.exec 0 (supply st x).1 (State.only_live db _) rfl rfl (State.only_free D db _ _))
        (by intro r hr; cases hr)
      simp only [State.only_db, State.only_update, Txn.run] at h
      rw [runFrom]
      simp only [Bool.false_eq_true, if_false]
      cases he : D.eval st (supply st x).1 now (D.view db W) with
      | ok res =>
        simp only [he] at h
        exact ih _ _ _ _ _ h
      | error e =>
        simp only [he] at h
        exact ih _ _ _ _ _ h

/-- The run of `alone` is a run of the system. -/
theorem Run.only_finish {ok : DB → Req → Prop} {s₀ : State DB Write Lock Err Stmt Val Req ε α}
    {db : DB} (o : Oracle) {r : Req} {now : ℤ} (p : Prog Stmt Val Err ε α) (W : List Write)
    (L : List Lock) (failed : Bool)
    (hs : Run D program ok s₀ (State.only db ⟨r, now, p, W, L, failed⟩)) :
    ∃ t, t.req = r ∧ AtEnd t (alone D o now db p W failed).2 ∧
      Run D program ok s₀ (State.only db t) := by
  rw [alone_eq]
  exact Run.only_finishFrom D program (fun _ x => (o, x)) p PUnit.unit W L failed hs

/-- A request with nobody else connected is served up to its end. -/
theorem Run.serve_end {ok : DB → Req → Prop} {s₀ : State DB Write Lock Err Stmt Val Req ε α} {db : DB}
    (c : Req × Oracle × ℤ) (hs : Run D program ok s₀ (State.quiet db)) :
    ∃ t, t.req = c.1 ∧ AtEnd t (alone D c.2.1 c.2.2 db (program c.1) [] false).2 ∧
      Run D program ok s₀ (State.only db t) := by
  have h := Run.step hs (Step.start 0 c.1 c.2.2 rfl) (by intro r hr; cases hr)
  exact Run.only_finish D program c.2.1 (program c.1) [] [] false h

/-- **Serial runs are runs.**  Serving a request with nobody else connected is one way for the
interleaved system to go. -/
theorem Run.serve {ok : DB → Req → Prop} {s₀ : State DB Write Lock Err Stmt Val Req ε α} {db : DB}
    (c : Req × Oracle × ℤ) (hok : ok db c.1) (hs : Run D program ok s₀ (State.quiet db)) :
    Run D program ok s₀ (State.quiet (serve D program db c)) := by
  obtain ⟨t, hr, ht, hend⟩ := hs.serve_end D program c
  rw [ReadCommitted.serve]
  exact hend.only_close D program ht (by rw [hr]; exact hok)

/-- A request that changes the rows does so in one committing step. -/
theorem Run.serve_commits {ok : DB → Req → Prop} {s₀ : State DB Write Lock Err Stmt Val Req ε α}
    {db : DB} (c : Req × Oracle × ℤ) (hs : Run D program ok s₀ (State.quiet db)) :
    ReadCommitted.serve D program db c = db ∨ ∃ s s', Run D program ok s₀ s ∧ s.db = db ∧
      Step D program s (some c.1) s' ∧ s'.db = ReadCommitted.serve D program db c := by
  obtain ⟨t, hr, ht, hend⟩ := hs.serve_end D program c
  rw [ReadCommitted.serve]
  rcases ht with ⟨a, hp, hf, hW⟩ | hW
  · rw [← hW, ← hr]
    exact Or.inr ⟨_, _, hend, rfl, Step.commit 0 (State.only_live db t) hp hf, rfl⟩
  · rw [hW]
    exact Or.inl rfl

/-- Every request of a serial run meets `ok` on the rows it is served on. -/
def Allowed (ok : DB → Req → Prop) : DB → List (Req × Oracle × ℤ) → Prop
  | _, [] => True
  | db, c :: cs => ok db c.1 ∧ Allowed ok (serve D program db c) cs

instance instDecidableAllowed (ok : DB → Req → Prop) [∀ db r, Decidable (ok db r)] :
    ∀ db cs, Decidable (Allowed D program ok db cs)
  | _, [] => inferInstanceAs (Decidable True)
  | db, c :: cs =>
    have := instDecidableAllowed ok (serve D program db c) cs
    inferInstanceAs (Decidable (_ ∧ _))

/-- Requests served one after the other, from rows already reached. -/
theorem Run.serveAll {ok : DB → Req → Prop} {s₀ : State DB Write Lock Err Stmt Val Req ε α}
    (cs : List (Req × Oracle × ℤ)) :
    ∀ db, Allowed D program ok db cs → Run D program ok s₀ (State.quiet db) →
      Run D program ok s₀ (State.quiet (serveAll D program db cs)) := by
  induction cs with
  | nil =>
    intro db _ hs
    exact hs
  | cons c cs ih =>
    intro db hok hs
    exact ih _ hok.2 (hs.serve D program c hok.1)

theorem allowed_anyCommit (cs : List (Req × Oracle × ℤ)) :
    ∀ db, Allowed D program anyCommit db cs := by
  induction cs with
  | nil => intro db; trivial
  | cons c cs ih => intro db; exact ⟨trivial, ih _⟩

end System

end ReadCommitted

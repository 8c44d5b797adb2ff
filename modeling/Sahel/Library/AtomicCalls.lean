import Mathlib.Logic.Relation
import Sahel.Library.RowInvariant

/-!
# Calls of statements that are atomic

A handler that opens no transaction runs one statement after the other, and others run theirs in
between.  A statement takes the locks it needs and is committed before it answers, so it is one step
here: it sees the rows as they are, and what it writes is there for the next.

* `reply` is a statement's answer, and the rows after it;
* `Step` lets a call arrive, or run its next statement;
* **`Reaches.invariant`**: what every statement keeps that a handler may run holds in every state
  that is reached;
* `serve` runs one call on its own, and `Reaches.serve` says that this is a run.
-/

set_option autoImplicit false

namespace AtomicCalls

open ReadCommitted

variable {DB Write Lock Err Oracle Stmt Req ε α β : Type} {Val : Stmt → Type}

/-- The rows, and what is left of every call. -/
structure State (DB Err Stmt : Type) (Val : Stmt → Type) (ε α : Type) where
  db : DB
  calls : List (Prog Stmt Val Err ε α)

section System

variable (D : Database DB Write Lock Err Oracle Stmt Val)
variable (program : Req → Prog Stmt Val Err ε α)

/-- The answer of a statement, and the rows after it. -/
def reply (st : Stmt) (o : Oracle) (now : ℤ) (db : DB) : Except Err (Val st) × DB :=
  match D.eval st o now db with
  | .ok (v, ws) => (.ok v, D.view db ws)
  | .error e => (.error e, db)

inductive Step : State DB Err Stmt Val ε α → State DB Err Stmt Val ε α → Prop where
  | arrive {s} (r : Req) : Step s ⟨s.db, s.calls ++ [program r]⟩
  | exec {s l₁ st k l₂} (o : Oracle) (now : ℤ) (here : s.calls = l₁ ++ .exec st k :: l₂) :
      Step s ⟨(reply D st o now s.db).2, l₁ ++ k (reply D st o now s.db).1 :: l₂⟩

/-- The states reached from `db₀`, with nobody connected. -/
abbrev Reaches (db₀ : DB) : State DB Err Stmt Val ε α → Prop :=
  Relation.ReflTransGen (Step D program) ⟨db₀, []⟩

/-- One call with nobody else connected; its statements take one oracle after the other. -/
def serve (now : ℤ) : Prog Stmt Val Err ε α → (ℕ → Oracle) → DB → Except ε α × DB
  | .pure a, _, db => (.ok a, db)
  | .throw e, _, db => (.error e, db)
  | .exec st k, os, db =>
    serve now (k (reply D st (os 0) now db).1) (fun n => os (n + 1)) (reply D st (os 0) now db).2

variable {D program} {db₀ : DB} {s : State DB Err Stmt Val ε α}

/-! ### Invariants -/

/-- **What every statement keeps** holds in every state that is reached. -/
theorem Reaches.invariant {ok : Stmt → Prop} {Inv : DB → Prop} (hok : ∀ r, (program r).Only ok)
    (hkeeps : ∀ st o now db, ok st → Inv db → Inv (reply D st o now db).2) (h₀ : Inv db₀)
    (h : Reaches D program db₀ s) : Inv s.db := by
  have hboth : Inv s.db ∧ ∀ p ∈ s.calls, p.Only ok := by
    induction h with
    | refl => exact ⟨h₀, fun p hp => absurd hp List.not_mem_nil⟩
    | tail _ hstep ih =>
      obtain ⟨hinv, hcalls⟩ := ih
      cases hstep with
      | arrive r =>
        refine ⟨hinv, fun p hp => ?_⟩
        rcases List.mem_append.mp hp with hp | hp
        · exact hcalls p hp
        · rw [List.mem_singleton.mp hp]
          exact hok r
      | @exec l₁ st k l₂ o now here =>
        rw [here] at hcalls
        have hnext := hcalls _ (List.mem_append_right l₁ List.mem_cons_self)
        refine ⟨hkeeps st o now _ hnext.stmt hinv, fun p hp => ?_⟩
        rcases List.mem_append.mp hp with hp | hp
        · exact hcalls p (List.mem_append_left _ hp)
        · rcases List.mem_cons.mp hp with rfl | hp
          · exact hnext.next _
          · exact hcalls p (List.mem_append_right _ (List.mem_cons_of_mem _ hp))
  exact hboth.1

/-! ### One call -/

/-- The rest of a call, run to its end. -/
theorem Reaches.rest {l : List (Prog Stmt Val Err ε α)} (now : ℤ) (p : Prog Stmt Val Err ε α) :
    ∀ (os : ℕ → Oracle) (db : DB), Reaches D program db₀ ⟨db, l ++ [p]⟩ →
      ∃ q, Reaches D program db₀ ⟨(serve D now p os db).2, l ++ [q]⟩ := by
  induction p with
  | pure a => exact fun os db h => ⟨_, h⟩
  | throw e => exact fun os db h => ⟨_, h⟩
  | exec st k ih => exact fun os db h => ih _ _ _ (h.tail (.exec (os 0) now rfl))

/-- **A call on its own** is part of a run. -/
theorem Reaches.serve (h : Reaches D program db₀ s) (r : Req) (os : ℕ → Oracle) (now : ℤ) :
    ∃ calls, Reaches D program db₀ ⟨(AtomicCalls.serve D now (program r) os s.db).2, calls⟩ := by
  obtain ⟨q, hq⟩ := Reaches.rest now (program r) os s.db (h.tail (.arrive r))
  exact ⟨_, hq⟩

/-! ### Serving -/

variable {now : ℤ} {os : ℕ → Oracle} {db : DB}

theorem serve_query_bind {lift : Err → ε} {st : Stmt} {f : Val st → Prog Stmt Val Err ε β} {v : Val st}
    {ws : List Write} (h : D.eval st (os 0) now db = .ok (v, ws)) :
    serve D now (Prog.query lift st >>= f) os db
      = serve D now (f v) (fun n => os (n + 1)) (D.view db ws) := by
  have hreply : reply D st (os 0) now db = (.ok v, D.view db ws) := by
    rw [reply, h]
  show serve D now (Prog.exec st _) os db = _
  rw [serve, hreply]
  rfl

/-- A query that did not end the call. -/
theorem serve_query_bind_ok {lift : Err → ε} {st : Stmt} {f : Val st → Prog Stmt Val Err ε β} {b : β}
    {db' : DB} (h : serve D now (Prog.query lift st >>= f) os db = (.ok b, db')) :
    ∃ v ws, D.eval st (os 0) now db = .ok (v, ws) ∧
      serve D now (f v) (fun n => os (n + 1)) (D.view db ws) = (.ok b, db') := by
  cases he : D.eval st (os 0) now db with
  | ok p => exact ⟨p.1, p.2, rfl, (serve_query_bind he).symm.trans h⟩
  | error e =>
    have hreply : reply D st (os 0) now db = (.error e, db) := by
      rw [reply, he]
    change serve D now (Prog.exec st _) os db = _ at h
    rw [serve, hreply] at h
    cases h

theorem serve_check_bind_ok {ε' : Type} {x : Except ε' α} {g : ε' → ε} {f : α → Prog Stmt Val Err ε β}
    {b : β} {db' : DB} (h : serve D now (Prog.check x g >>= f) os db = (.ok b, db')) :
    ∃ a, x = .ok a ∧ serve D now (f a) os db = (.ok b, db') := by
  cases x with
  | error e => cases h
  | ok a => exact ⟨a, rfl, h⟩

theorem serve_require_bind_ok {x : Option α} {e : ε} {f : α → Prog Stmt Val Err ε β} {b : β} {db' : DB}
    (h : serve D now (Prog.require x e >>= f) os db = (.ok b, db')) :
    ∃ a, x = some a ∧ serve D now (f a) os db = (.ok b, db') := by
  cases x with
  | none => cases h
  | some a => exact ⟨a, rfl, h⟩

end System

end AtomicCalls

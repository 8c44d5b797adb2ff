import Sahel.Library.RowInvariant

/-!
# Runs on a supply of oracles, composed

How the run of a program follows from the runs of its parts, each part taking up the supply, the
writes and the failure where the one before left them.

* `runFrom_bind` and `runFrom_mapErr` for programs, `runFrom_query` and `runFrom_attempt` for one
  statement;
* `Outcome.committed_error`: a run that ends in an error commits nothing.
-/

set_option autoImplicit false

namespace ReadCommitted

variable {DB Write Lock Err Oracle Stmt Req ε ε' α β σ : Type} {Val : Stmt → Type}

/-- Go on from where a run ended. -/
def Outcome.andThen (x : Outcome Write ε σ α) (f : α → σ → List Write → Bool → Outcome Write ε σ β) :
    Outcome Write ε σ β :=
  match x.result with
  | .ok a => f a x.supply x.writes x.failed
  | .error e => ⟨.error e, x.supply, x.writes, x.failed⟩

/-- The same run with its error reworded. -/
def Outcome.reword (g : ε → ε') (x : Outcome Write ε σ α) : Outcome Write ε' σ α :=
  ⟨x.result.mapError g, x.supply, x.writes, x.failed⟩

@[simp] theorem Outcome.committed_error (e : ε) (x : σ) (W : List Write) (failed : Bool) :
    (⟨.error e, x, W, failed⟩ : Outcome Write ε σ α).committed = [] := rfl

@[simp] theorem Outcome.committed_ok (a : α) (x : σ) (W : List Write) :
    (⟨.ok a, x, W, false⟩ : Outcome Write ε σ α).committed = W := rfl

@[simp] theorem Outcome.committed_reword (g : ε → ε') (x : Outcome Write ε σ α) :
    (x.reword g).committed = x.committed := by
  obtain ⟨r, y, W, failed⟩ := x
  cases r <;> rfl

theorem Outcome.reword_reword {ε'' : Type} (g : ε → ε') (g' : ε' → ε'') (x : Outcome Write ε σ α) :
    (x.reword g).reword g' = x.reword (fun e => g' (g e)) := by
  obtain ⟨r, y, W, failed⟩ := x
  cases r <;> rfl

@[simp] theorem Outcome.reword_ok {g : ε → ε'} {x : Outcome Write ε σ α} {a : α} :
    (x.reword g).result = .ok a ↔ x.result = .ok a := by
  obtain ⟨r, y, W, failed⟩ := x
  cases r with
  | ok b =>
    show Except.ok b = .ok a ↔ Except.ok b = .ok a
    simp only [Except.ok.injEq]
  | error e =>
    show Except.error (g e) = .ok a ↔ Except.error e = .ok a
    simp only [reduceCtorEq]

section Compose

variable (D : Database DB Write Lock Err Oracle Stmt Val) (supply : Stmt → σ → Oracle × σ) (now : ℤ)
variable (db : DB)

@[simp] theorem runFrom_pure (a : α) (x : σ) (W : List Write) (failed : Bool) :
    runFrom D supply now db (pure a : Prog Stmt Val Err ε α) x W failed = ⟨.ok a, x, W, failed⟩ := rfl

@[simp] theorem runFrom_bind (p : Prog Stmt Val Err ε α) (f : α → Prog Stmt Val Err ε β) (x : σ)
    (W : List Write) (failed : Bool) :
    runFrom D supply now db (p >>= f) x W failed
      = (runFrom D supply now db p x W failed).andThen (fun a => runFrom D supply now db (f a)) := by
  show runFrom D supply now db (p.bind f) x W failed = _
  induction p generalizing x W failed with
  | pure a => rfl
  | throw e => rfl
  | exec s k ih =>
    rw [Prog.bind, runFrom, runFrom]
    cases failed with
    | true => exact ih _ _ _ _
    | false =>
      cases D.eval s (supply s x).1 now (D.view db W) with
      | ok res => exact ih _ _ _ _
      | error e => exact ih _ _ _ _

@[simp] theorem runFrom_mapErr (g : ε → ε') (p : Prog Stmt Val Err ε α) (x : σ) (W : List Write)
    (failed : Bool) :
    runFrom D supply now db (p.mapErr g) x W failed
      = (runFrom D supply now db p x W failed).reword g := by
  induction p generalizing x W failed with
  | pure a => rfl
  | throw e => rfl
  | exec s k ih =>
    rw [Prog.mapErr, runFrom, runFrom]
    cases failed with
    | true => exact ih _ _ _ _
    | false =>
      cases D.eval s (supply s x).1 now (D.view db W) with
      | ok res => exact ih _ _ _ _
      | error e => exact ih _ _ _ _

/-- One statement that succeeds. -/
theorem runFrom_query (lift : Err → ε) {s : Stmt} {x : σ} {W ws : List Write} {v : Val s}
    (h : D.eval s (supply s x).1 now (D.view db W) = .ok (v, ws)) :
    runFrom D supply now db (Prog.query lift s) x W false
      = ⟨.ok v, (supply s x).2, W ++ ws, false⟩ := by
  simp only [Prog.query, runFrom, Bool.false_eq_true, if_false, h]

/-- One statement, whatever it answers. -/
theorem runFrom_attempt {s : Stmt} {x : σ} {W : List Write} :
    runFrom D supply now db (Prog.attempt s : Prog Stmt Val Err ε (Except Err (Val s))) x W false
      = match D.eval s (supply s x).1 now (D.view db W) with
        | .ok (v, ws) => ⟨.ok (.ok v), (supply s x).2, W ++ ws, false⟩
        | .error e => ⟨.ok (.error e), (supply s x).2, W, true⟩ := by
  rw [Prog.attempt, runFrom]
  simp only [Bool.false_eq_true, if_false]
  cases D.eval s (supply s x).1 now (D.view db W) <;> rfl

end Compose

end ReadCommitted

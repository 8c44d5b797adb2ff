import Sahel.Library.Extension
import Sahel.Library.RowInvariant

/-!
# One program on two databases

What a program run alone reveals about the rows it runs on.

* `statements` are those it runs;
* `Denied` is a program that only reads and then ends in an error that is known beforehand;
* `alone_congr`: a program of statements that both databases evaluate alike has one run;
* `Alike` is a program that only reads, and reads the same on both databases; `Alike.alone` is that
  nobody can tell the two runs apart, and `Alike.alone_bind` that what comes after it decides.
-/

set_option autoImplicit false

namespace ReadCommitted

variable {DB Write Lock Err Oracle Stmt ε ε' α β : Type} {Val : Stmt → Type}

/-- The statements a program runs with nobody else connected. -/
def statements (D : Database DB Write Lock Err Oracle Stmt Val) (o : Oracle) (now : ℤ) (db : DB) :
    Prog Stmt Val Err ε α → List Write → Bool → List Stmt
  | .pure _, _, _ => []
  | .throw _, _, _ => []
  | .exec s k, W, failed =>
    if failed then statements D o now db (k (.error D.aborted)) W true
    else s :: match D.eval s o now (D.view db W) with
      | .ok (v, ws) => statements D o now db (k (.ok v)) (W ++ ws) false
      | .error e => statements D o now db (k (.error e)) W true

/-- One statement that reads, and what comes after it. -/
theorem alone_exec {D : Database DB Write Lock Err Oracle Stmt Val} {o : Oracle} {now : ℤ} {db : DB}
    {s : Stmt} {v : Val s} {k : Except Err (Val s) → Prog Stmt Val Err ε α}
    (h : D.eval s o now db = .ok (v, [])) :
    alone D o now db (.exec s k) [] false = alone D o now db (k (.ok v)) [] false ∧
    statements D o now db (.exec s k) [] false = s :: statements D o now db (k (.ok v)) [] false := by
  rw [alone, statements]
  simp only [Bool.false_eq_true, if_false, Database.view_nil, h]
  exact ⟨rfl, rfl⟩

/-- **Statements that both databases evaluate alike** make one run. -/
theorem alone_congr {D : Database DB Write Lock Err Oracle Stmt Val} {o : Oracle} {now : ℤ}
    {db db' : DB} {ok : Stmt → Prop}
    (hok : ∀ s, ok s → ∀ W, D.eval s o now (D.view db' W) = D.eval s o now (D.view db W))
    {p : Prog Stmt Val Err ε α} (hp : p.Only ok) (W : List Write) (failed : Bool) :
    alone D o now db' p W failed = alone D o now db p W failed := by
  induction hp generalizing W failed with
  | pure a => rfl
  | throw e => rfl
  | @exec s k hs _ ih =>
    rw [alone, alone]
    cases failed with
    | true => exact ih _ _ _
    | false =>
      rw [if_neg Bool.false_ne_true, if_neg Bool.false_ne_true, hok s hs W]
      cases D.eval s o now (D.view db W) with
      | ok r => exact ih _ _ _
      | error e => exact ih _ _ _

section Denied

variable {D : Database DB Write Lock Err Oracle Stmt Val} {ok : Stmt → Prop} {o : Oracle} {now : ℤ}
  {db : DB}

variable (D ok o now db) in
/-- The program ends in `e`, having only read, by statements of `ok`. -/
inductive Denied : Prog Stmt Val Err ε α → ε → Prop
  | throw (e : ε) : Denied (.throw e) e
  | exec {s k v e} (hs : ok s) (h : D.eval s o now db = .ok (v, [])) (hk : Denied (k (.ok v)) e) :
      Denied (.exec s k) e

theorem Denied.bind {p : Prog Stmt Val Err ε α} {e : ε} (h : Denied D ok o now db p e)
    (f : α → Prog Stmt Val Err ε β) : Denied D ok o now db (p >>= f) e := by
  induction h with
  | throw e => exact .throw e
  | exec hs h _ ih => exact .exec hs h ih

theorem Denied.mapErr {p : Prog Stmt Val Err ε α} {e : ε} (g : ε → ε')
    (h : Denied D ok o now db p e) : Denied D ok o now db (p.mapErr g) (g e) := by
  induction h with
  | throw e => exact .throw (g e)
  | exec hs h _ ih => exact .exec hs h ih

/-- **Nothing but the error**, and nothing is written. -/
theorem Denied.alone {p : Prog Stmt Val Err ε α} {e : ε} (h : Denied D ok o now db p e) :
    ReadCommitted.alone D o now db p [] false = (.error e, []) := by
  induction h with
  | throw e => rfl
  | exec _ h _ ih => rw [(alone_exec h).1, ih]

theorem Denied.statements {p : Prog Stmt Val Err ε α} {e : ε} (h : Denied D ok o now db p e) :
    ∀ s ∈ ReadCommitted.statements D o now db p [] false, ok s := by
  induction h with
  | throw e =>
    intro s hs
    cases hs
  | exec hok h _ ih =>
    rw [(alone_exec h).2]
    exact List.forall_mem_cons.mpr ⟨hok, ih⟩

/-- The program of a smaller database. -/
theorem Denied.lift {X WriteX LockX StmtX : Type} {ValX : StmtX → Type}
    {E : Extra D X WriteX LockX StmtX ValX} {okX : StmtX → Prop} {x : X} {p : Prog Stmt Val Err ε α}
    {e : ε} (h : Denied D ok o now db p e) (f : α → β) :
    Denied E.database (Sum.elim ok okX) o now (db, x) (p.lift f) e := by
  induction h with
  | throw e => exact .throw e
  | @exec s k v e hs h _ ih =>
    have heval : E.database.eval (.inl s) o now (db, x) = .ok (v, []) := by
      show Extra.answerOn Sum.inl (D.eval s o now db) = _
      rw [h]
      rfl
    exact .exec hs heval ih

end Denied

section Alike

variable {D : Database DB Write Lock Err Oracle Stmt Val} {ok : Stmt → Prop} {o : Oracle} {now : ℤ}
  {db db' : DB} {Q : α → Prop}

variable (D ok o now db db') in
/-- The program only reads, by statements of `ok`, and reads the same on both databases; a value it
ends with is one of `Q`. -/
inductive Alike (Q : α → Prop) : Prog Stmt Val Err ε α → Prop
  | pure {a : α} (h : Q a) : Alike Q (.pure a)
  | throw (e : ε) : Alike Q (.throw e)
  | exec {s k v} (hs : ok s) (h : D.eval s o now db = .ok (v, []))
      (h' : D.eval s o now db' = .ok (v, [])) (hk : Alike Q (k (.ok v))) : Alike Q (.exec s k)

theorem Alike.bind {R : β → Prop} {p : Prog Stmt Val Err ε α} {f : α → Prog Stmt Val Err ε β}
    (h : Alike D ok o now db db' Q p) (hf : ∀ a, Q a → Alike D ok o now db db' R (f a)) :
    Alike D ok o now db db' R (p >>= f) := by
  induction h with
  | pure h => exact hf _ h
  | throw e => exact .throw e
  | exec hs h h' _ ih => exact .exec hs h h' ih

theorem Alike.mapErr {p : Prog Stmt Val Err ε α} (g : ε → ε') (h : Alike D ok o now db db' Q p) :
    Alike D ok o now db db' Q (p.mapErr g) := by
  induction h with
  | pure h => exact .pure h
  | throw e => exact .throw (g e)
  | exec hs h h' _ ih => exact .exec hs h h' ih

theorem alike_query {lift : Err → ε} {s : Stmt} {v : Val s} {Q : Val s → Prop} (hs : ok s)
    (h : D.eval s o now db = .ok (v, [])) (h' : D.eval s o now db' = .ok (v, [])) (hv : Q v) :
    Alike D ok o now db db' Q (Prog.query lift s) :=
  .exec hs h h' (.pure hv)

theorem alike_require {x : Option α} {e : ε} (h : ∀ a ∈ x, Q a) :
    Alike D ok o now db db' Q (Prog.require x e) := by
  cases x with
  | none => exact .throw e
  | some a => exact .pure (h a rfl)

/-- **The two runs are one.** -/
theorem Alike.alone {p : Prog Stmt Val Err ε α} (h : Alike D ok o now db db' Q p) :
    ReadCommitted.alone D o now db p [] false = ReadCommitted.alone D o now db' p [] false ∧
      (ReadCommitted.alone D o now db p [] false).2 = [] := by
  induction h with
  | pure h => exact ⟨rfl, rfl⟩
  | throw e => exact ⟨rfl, rfl⟩
  | exec _ h h' _ ih =>
    rw [(alone_exec h).1, (alone_exec h').1]
    exact ih

/-- **What comes after** decides whether the two runs are one. -/
theorem Alike.alone_bind {p : Prog Stmt Val Err ε α} {f : α → Prog Stmt Val Err ε β}
    (h : Alike D ok o now db db' Q p)
    (hf : ∀ a, Q a → ReadCommitted.alone D o now db (f a) [] false
      = ReadCommitted.alone D o now db' (f a) [] false) :
    ReadCommitted.alone D o now db (p >>= f) [] false
      = ReadCommitted.alone D o now db' (p >>= f) [] false := by
  induction h with
  | pure h => exact hf _ h
  | throw e => rfl
  | @exec s k v _ h h' _ ih =>
    show ReadCommitted.alone D o now db (.exec s (fun r => (k r).bind f)) [] false
      = ReadCommitted.alone D o now db' (.exec s (fun r => (k r).bind f)) [] false
    rw [(alone_exec h).1, (alone_exec h').1]
    exact ih

theorem Alike.statements {p : Prog Stmt Val Err ε α} (h : Alike D ok o now db db' Q p) :
    ReadCommitted.statements D o now db p [] false = ReadCommitted.statements D o now db' p [] false ∧
      ∀ s ∈ ReadCommitted.statements D o now db p [] false, ok s := by
  induction h with
  | pure h => exact ⟨rfl, by intro s hs; cases hs⟩
  | throw e => exact ⟨rfl, by intro s hs; cases hs⟩
  | exec hok h h' _ ih =>
    rw [(alone_exec h).2, (alone_exec h').2]
    exact ⟨congrArg _ ih.1, List.forall_mem_cons.mpr ⟨hok, ih.2⟩⟩

/-- A program of a smaller database that reads the same there. -/
theorem Alike.lift {X WriteX LockX StmtX : Type} {ValX : StmtX → Type}
    {E : Extra D X WriteX LockX StmtX ValX} {okX : StmtX → Prop} {x x' : X}
    {p : Prog Stmt Val Err ε α} (h : Alike D ok o now db db' Q p) :
    Alike E.database (Sum.elim ok okX) o now (db, x) (db', x') Q (p.lift id) := by
  induction h with
  | pure h => exact .pure h
  | throw e => exact .throw e
  | @exec s k v hs h h' _ ih =>
    have heval : ∀ d : DB × X, D.eval s o now d.1 = .ok (v, []) →
        E.database.eval (.inl s) o now d = .ok (v, []) := by
      intro d hd
      show Extra.answerOn Sum.inl (D.eval s o now d.1) = _
      rw [hd]
      rfl
    exact .exec hs (heval (db, x) h) (heval (db', x') h') ih

end Alike

/-! ### Steps that tell the databases apart by nothing -/

section Steps

variable {D : Database DB Write Lock Err Oracle Stmt Val} {o : Oracle} {now : ℤ} {db db' : DB}

theorem refuse_alone_bind {bad : Prop} [Decidable bad] {e : ε} {f : PUnit → Prog Stmt Val Err ε β}
    (hf : ReadCommitted.alone D o now db (f ⟨⟩) [] false
      = ReadCommitted.alone D o now db' (f ⟨⟩) [] false) :
    ReadCommitted.alone D o now db (Prog.refuse bad e >>= f) [] false
      = ReadCommitted.alone D o now db' (Prog.refuse bad e >>= f) [] false := by
  by_cases h : bad
  · rw [Prog.refuse, if_pos h]
    rfl
  · rw [Prog.refuse, if_neg h]
    exact hf

theorem require_alone_bind {x : Option α} {e : ε} {f : α → Prog Stmt Val Err ε β}
    (hf : ∀ a, x = some a → ReadCommitted.alone D o now db (f a) [] false
      = ReadCommitted.alone D o now db' (f a) [] false) :
    ReadCommitted.alone D o now db (Prog.require x e >>= f) [] false
      = ReadCommitted.alone D o now db' (Prog.require x e >>= f) [] false := by
  cases x with
  | none => rfl
  | some a => exact hf a rfl

theorem check_alone_bind {x : Except ε' α} {g : ε' → ε} {f : α → Prog Stmt Val Err ε β}
    (hf : ∀ a, x = .ok a → ReadCommitted.alone D o now db (f a) [] false
      = ReadCommitted.alone D o now db' (f a) [] false) :
    ReadCommitted.alone D o now db (Prog.check x g >>= f) [] false
      = ReadCommitted.alone D o now db' (Prog.check x g >>= f) [] false := by
  cases x with
  | error e => rfl
  | ok a => exact hf a rfl

theorem query_alone_bind {lift : Err → ε} {s : Stmt} {v : Val s} {f : Val s → Prog Stmt Val Err ε β}
    (h : D.eval s o now db = .ok (v, [])) (h' : D.eval s o now db' = .ok (v, []))
    (hf : ReadCommitted.alone D o now db (f v) [] false
      = ReadCommitted.alone D o now db' (f v) [] false) :
    ReadCommitted.alone D o now db (Prog.query lift s >>= f) [] false
      = ReadCommitted.alone D o now db' (Prog.query lift s >>= f) [] false := by
  rw [alone_query_bind, alone_query_bind, D.view_nil, D.view_nil, h, h']
  exact hf

end Steps

end ReadCommitted

import Sahel.Library.History
import Sahel.Library.RowInvariant

/-!
# Larger databases

A system is seldom verified whole.  `Extra` adds rows, statements, writes and locks to a database
that is already understood, and `Extra.database` is the two together: the statements of the smaller
one are on the left of every sum and see the smaller rows only, those that are added are on the
right and may touch everything.

* `Prog.lift` runs a program of the smaller database in the larger one;
* `Extra.system` serves the requests of both;
* `view_inl` and `eval_inl` say that the smaller database is found again in the larger one, and
  `RowInvariant.extend` that a fact kept by single writes is still kept.
-/

set_option autoImplicit false

namespace ReadCommitted

variable {DB Write Lock Err Oracle Stmt Req ReqX ε α β : Type} {Val : Stmt → Type}
variable {X WriteX LockX StmtX : Type} {ValX : StmtX → Type}

/-- Rows, statements, writes and locks added to a database. -/
structure Extra (D : Database DB Write Lock Err Oracle Stmt Val) (X WriteX LockX StmtX : Type)
    (ValX : StmtX → Type) where
  apply : DB × X → WriteX → DB × X
  eval : (s : StmtX) → Oracle → ℤ → DB × X → Except Err (ValX s × List WriteX)
  locks : StmtX → Oracle → ℤ → DB × X → List (Lock ⊕ LockX)
  conflict : LockX → LockX → Bool
  conflict_comm : ∀ l l', conflict l l' = conflict l' l

/-- A program of the smaller database. -/
def Prog.lift (f : α → β) : Prog Stmt Val Err ε α → Prog (Stmt ⊕ StmtX) (Sum.elim Val ValX) Err ε β
  | .pure a => .pure (f a)
  | .throw e => .throw e
  | .exec s k => .exec (.inl s) (fun r => (k r).lift f)

namespace Extra

variable {D : Database DB Write Lock Err Oracle Stmt Val} (E : Extra D X WriteX LockX StmtX ValX)

/-- What a statement answers, with its writes on one side of the sum. -/
def answerOn {V W W' : Type} (side : W → W') (r : Except Err (V × List W)) : Except Err (V × List W') :=
  r.map (fun p => (p.1, p.2.map side))

/-- Both databases in one. -/
def database : Database (DB × X) (Write ⊕ WriteX) (Lock ⊕ LockX) Err Oracle (Stmt ⊕ StmtX)
    (Sum.elim Val ValX) where
  apply d w := match w with
    | .inl w => (D.apply d.1 w, d.2)
    | .inr w => E.apply d w
  eval s o now d := match s with
    | .inl s => answerOn Sum.inl (D.eval s o now d.1)
    | .inr s => answerOn Sum.inr (E.eval s o now d)
  locks s o now d := match s with
    | .inl s => (D.locks s o now d.1).map Sum.inl
    | .inr s => E.locks s o now d
  conflict l l' := match l, l' with
    | .inl l, .inl l' => D.conflict l l'
    | .inr l, .inr l' => E.conflict l l'
    | _, _ => false
  conflict_comm l l' := by
    cases l <;> cases l' <;> first | exact D.conflict_comm _ _ | exact E.conflict_comm _ _ | rfl
  aborted := D.aborted

/-- The requests of both. -/
def system (program : Req → Prog Stmt Val Err ε α)
    (programX : ReqX → Prog (Stmt ⊕ StmtX) (Sum.elim Val ValX) Err ε β) :
    Req ⊕ ReqX → Prog (Stmt ⊕ StmtX) (Sum.elim Val ValX) Err ε (α ⊕ β)
  | .inl r => (program r).lift Sum.inl
  | .inr r => Sum.inr <$> programX r

variable {E}

theorem view_inl (d : DB × X) (W : List Write) :
    E.database.view d (W.map Sum.inl) = (D.view d.1 W, d.2) := by
  induction W generalizing d with
  | nil => rfl
  | cons w W ih => exact ih (D.apply d.1 w, d.2)

theorem answerOn_ok {V W W' : Type} {side : W → W'} {r : Except Err (V × List W)} {v : V}
    {ws : List W'} (h : answerOn side r = .ok (v, ws)) : ∃ ws₀, r = .ok (v, ws₀) ∧
      ws = ws₀.map side := by
  cases r with
  | error e => cases h
  | ok p =>
    cases h
    exact ⟨p.2, rfl, rfl⟩

theorem answerOn_error {V W W' : Type} {side : W → W'} {r : Except Err (V × List W)} {e : Err}
    (h : answerOn side r = .error e) : r = .error e := by
  cases r with
  | error e' => exact congrArg Except.error (Except.error.inj h)
  | ok p => cases h

/-- A statement of the smaller database answers from the smaller rows. -/
theorem eval_inl {s : Stmt} {o : Oracle} {now : ℤ} {d : DB × X} {v : Val s} {ws : List (Write ⊕ WriteX)}
    (h : E.database.eval (.inl s) o now d = .ok (v, ws)) :
    ∃ ws₀, D.eval s o now d.1 = .ok (v, ws₀) ∧ ws = ws₀.map Sum.inl :=
  answerOn_ok h

theorem eval_inr {s : StmtX} {o : Oracle} {now : ℤ} {d : DB × X} {v : ValX s}
    {ws : List (Write ⊕ WriteX)} (h : E.database.eval (.inr s) o now d = .ok (v, ws)) :
    ∃ ws₀, E.eval s o now d = .ok (v, ws₀) ∧ ws = ws₀.map Sum.inr :=
  answerOn_ok h

theorem compatible_inl {L L' : List Lock}
    (h : E.database.Compatible (L.map Sum.inl) (L'.map Sum.inl)) : D.Compatible L L' :=
  fun _ hl _ hl' => h _ (List.mem_map_of_mem hl) _ (List.mem_map_of_mem hl')

/-- A program of the smaller database, on its own. -/
theorem alone_lift {f : α → β} {o : Oracle} {now : ℤ} {d : DB × X} (p : Prog Stmt Val Err ε α)
    (W : List Write) (failed : Bool) : alone E.database o now d (p.lift f) (W.map Sum.inl) failed
      = ((alone D o now d.1 p W failed).1.map f, (alone D o now d.1 p W failed).2.map Sum.inl) := by
  induction p generalizing W failed with
  | pure a => cases failed <;> rfl
  | throw e => rfl
  | exec s k ih =>
    cases failed with
    | true =>
      simp only [Prog.lift, alone, if_true]
      exact ih (.error D.aborted) W true
    | false =>
      cases he : D.eval s o now (D.view d.1 W) with
      | error e =>
        have heval : E.database.eval (.inl s) o now (D.view d.1 W, d.2) = .error e := by
          show answerOn Sum.inl (D.eval s o now (D.view d.1 W)) = _
          rw [he]
          rfl
        simp only [Prog.lift, alone, Bool.false_eq_true, if_false, view_inl, heval, he]
        exact ih (.error e) W true
      | ok res =>
        have heval : E.database.eval (.inl s) o now (D.view d.1 W, d.2)
            = .ok (res.1, res.2.map Sum.inl) := by
          show answerOn Sum.inl (D.eval s o now (D.view d.1 W)) = _
          rw [he]
          rfl
        simp only [Prog.lift, alone, Bool.false_eq_true, if_false, view_inl, heval, he]
        rw [← List.map_append]
        exact ih (.ok res.1) (W ++ res.2) false

/-- **A lifted program runs as it did.** -/
theorem ran_lift {f : α → β} {now : ℤ} {p : Prog Stmt Val Err ε α} {W : List Write}
    {es : List (Event (DB × X) Oracle (Stmt ⊕ StmtX))} {b : β} {W' : List (Write ⊕ WriteX)}
    (h : Ran E.database now (p.lift f) (W.map Sum.inl) es b W') :
    ∃ (es₀ : List (Event DB Oracle Stmt × X)) (a : α) (W₁ : List Write),
      es = es₀.map (fun e => ⟨.inl e.1.stmt, e.1.oracle, (e.1.db, e.2)⟩) ∧ b = f a ∧
      W' = W₁.map Sum.inl ∧ Ran D now p W (es₀.map Prod.fst) a W₁ := by
  induction p generalizing W es with
  | pure a =>
    cases h
    exact ⟨[], a, W, rfl, rfl, rfl, .done a W⟩
  | throw e => cases h
  | exec s k ih =>
    cases h with
    | @exec _ _ _ o db v ws es _ _ he hk =>
      obtain ⟨ws₀, he₀, rfl⟩ := eval_inl he
      rw [← List.map_append] at hk
      obtain ⟨es₀, a, W₁, rfl, rfl, rfl, hran⟩ := ih _ hk
      rw [view_inl] at he₀
      exact ⟨(⟨s, o, db.1⟩, db.2) :: es₀, a, W₁, rfl, rfl, rfl, .exec he₀ hran⟩

end Extra

/-- A lifted program runs the same statements. -/
theorem Prog.Only.lift {ok : Stmt → Prop} {okX : StmtX → Prop} {f : α → β}
    {p : Prog Stmt Val Err ε α} (h : p.Only ok) :
    (p.lift f : Prog (Stmt ⊕ StmtX) (Sum.elim Val ValX) Err ε β).Only (Sum.elim ok okX) := by
  induction h with
  | pure a => exact .pure (f a)
  | throw e => exact .throw e
  | exec h _ ih => exact .exec h ih

theorem Prog.Once.lift {blind look : Stmt → Prop} {blindX : StmtX → Prop} {f : α → β}
    {p : Prog Stmt Val Err ε α} (h : p.Once blind look) :
    (p.lift f : Prog (Stmt ⊕ StmtX) (Sum.elim Val ValX) Err ε β).Once (Sum.elim blind blindX)
      (Sum.elim look (fun _ => False)) := by
  induction h with
  | pure a => exact .pure (f a)
  | throw e => exact .throw e
  | skip h _ ih => exact .skip h ih
  | look h hk => exact .look h (fun r => (hk r).lift)

/-- **A fact kept by single writes** is kept in the larger database, if the added writes keep it. -/
def RowInvariant.extend {D : Database DB Write Lock Err Oracle Stmt Val} (I : RowInvariant D)
    (E : Extra D X WriteX LockX StmtX ValX) (hgrows : ∀ d w, I.Grows d.1 (E.apply d w).1)
    (hmono : ∀ {d d'} w, I.Grows d.1 d'.1 → I.Grows (E.apply d w).1 (E.apply d' w).1)
    (hkeeps : ∀ {d w}, I.Holds d.1 → I.Holds (E.apply d w).1) : RowInvariant E.database where
  ok := Sum.elim I.ok (fun _ => True)
  Grows d d' := I.Grows d.1 d'.1
  Fits d := Sum.elim (I.Fits d.1) (fun _ => True)
  Holds d := I.Holds d.1
  refl d := I.refl d.1
  trans := I.trans
  apply_grows d w := by
    cases w with
    | inl w => exact I.apply_grows d.1 w
    | inr w => exact hgrows d w
  apply_mono w h := by
    cases w with
    | inl w => exact I.apply_mono w h
    | inr w => exact hmono w h
  fits_grows {d d' w} h hf := by
    cases w with
    | inl w => exact I.fits_grows h hf
    | inr w => trivial
  keeps {d w} h hf := by
    cases w with
    | inl w => exact I.keeps h hf
    | inr w => exact hkeeps h
  eval_fits {s o now d v ws} hok h he := by
    cases s with
    | inl s =>
      obtain ⟨ws₀, he₀, rfl⟩ := Extra.eval_inl he
      intro w hw
      obtain ⟨w₀, hw₀, rfl⟩ := List.mem_map.mp hw
      exact I.eval_fits hok h he₀ w₀ hw₀
    | inr s =>
      obtain ⟨ws₀, -, rfl⟩ := Extra.eval_inr he
      intro w hw
      obtain ⟨w₀, -, rfl⟩ := List.mem_map.mp hw
      trivial

end ReadCommitted

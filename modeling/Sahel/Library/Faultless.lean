import Sahel.Library.Interference

/-!
# Statements that never fail

A weakest precondition asks nothing of a program whose statement fails, for it commits nothing.  Here
it is asked that some failures do not come about at all.

* `never bad` is a program none of whose statements ends in an error of `bad`, whatever others commit
  in the meantime; the rules under it take a program apart, `wp` saying what holds in between;
* **`Sound.never_run`**: along a run, every live transaction is still such a program.
-/

set_option autoImplicit false

namespace ReadCommitted

variable {DB Write Lock Err Oracle Stmt Req ε ε' α β : Type} {Val : Stmt → Type}
variable {D : Database DB Write Lock Err Oracle Stmt Val}

namespace RelyGuarantee

variable (G : RelyGuarantee D Req) (bad : Err → Prop)

/-- No statement of the program fails with an error of `bad`. -/
def never (now : ℤ) : Prog Stmt Val Err ε α → List Lock → List Write → DB → Prop
  | .pure _, _, _, _ => True
  | .throw _, _, _, _ => True
  | .exec s k, L, W, db =>
    ∀ db', G.Rely L db db' → ∀ o,
      (∀ e, D.eval s o now (D.view db' W) = .error e → ¬ bad e) ∧
      ∀ v ws, D.eval s o now (D.view db' W) = .ok (v, ws) →
        never now (k (.ok v)) (L ++ D.locks s o now (D.view db' W)) (W ++ ws) db'

variable {G bad} {now : ℤ}

/-! ### Rules -/

section Rules

variable {L : List Lock} {W : List Write} {db : DB}

theorem never_rely {p : Prog Stmt Val Err ε α} {db' : DB} (h : G.never bad now p L W db)
    (hR : G.Rely L db db') : G.never bad now p L W db' := by
  cases p with
  | pure a => trivial
  | throw e => trivial
  | exec s k => exact fun db'' hR' => h db'' (G.trans hR hR')

theorem wp_true (p : Prog Stmt Val Err ε α) : G.wp now p (fun _ _ _ _ => True) L W db := by
  induction p generalizing L W db with
  | pure a => trivial
  | throw e => trivial
  | exec s k ih => exact fun db' _ o v ws _ => ih _

/-- **Sequencing**: what comes second may use what the first part establishes. -/
theorem never_bind {p : Prog Stmt Val Err ε α} {f : α → Prog Stmt Val Err ε β}
    (hp : G.never bad now p L W db)
    (hf : G.wp now p (fun a L W db => G.never bad now (f a) L W db) L W db) :
    G.never bad now (p >>= f) L W db := by
  show G.never bad now (p.bind f) L W db
  induction p generalizing L W db with
  | pure a => exact hf
  | throw e => trivial
  | exec s k ih =>
    intro db' hR o
    obtain ⟨hbad, hgo⟩ := hp db' hR o
    exact ⟨hbad, fun v ws he => ih _ (hgo v ws he) (hf db' hR o v ws he)⟩

theorem never_map {p : Prog Stmt Val Err ε α} (f : α → β) (hp : G.never bad now p L W db) :
    G.never bad now (f <$> p) L W db :=
  never_bind hp (wp_true p)

theorem never_query {s : Stmt} (lift : Err → ε)
    (h : ∀ db', G.Rely L db db' → ∀ o e, D.eval s o now (D.view db' W) = .error e → ¬ bad e) :
    G.never bad now (Prog.query lift s : Prog Stmt Val Err ε (Val s)) L W db := by
  intro db' hR o
  exact ⟨h db' hR o, fun _ _ _ => trivial⟩

theorem never_refuse (b : Prop) [Decidable b] (e : ε) :
    G.never bad now (Prog.refuse b e : Prog Stmt Val Err ε PUnit) L W db := by
  by_cases h : b
  · rw [Prog.refuse, if_pos h]
    trivial
  · rw [Prog.refuse, if_neg h]
    trivial

theorem never_require (x : Option α) (e : ε) :
    G.never bad now (Prog.require x e : Prog Stmt Val Err ε α) L W db := by
  cases x with
  | none => trivial
  | some a => trivial

theorem never_check (x : Except ε' α) (g : ε' → ε) :
    G.never bad now (Prog.check x g : Prog Stmt Val Err ε α) L W db := by
  cases x with
  | error e => trivial
  | ok a => trivial

end Rules

/-! ### Runs -/

section Runs

variable (G bad)

/-- The live transactions that serve requests of `who` never fail with an error of `bad`. -/
def Faultless (who : Req → Prop) (s : State DB Write Lock Err Stmt Val Req ε α) : Prop :=
  ∀ i t, s.txs i = some t → who t.req → t.failed = false →
    G.never bad t.now t.prog t.locks t.writes s.db

variable {G bad} {who : Req → Prop} {program : Req → Prog Stmt Val Err ε α}

/-- Being such a program is a condition of one transaction. -/
def neverFails (hn : ∀ r, who r → ∀ now db, G.never bad now (program r) [] [] db) : Steady G program where
  Holds t db := who t.req → G.never bad t.now t.prog t.locks t.writes db
  start r now db hwho := hn r hwho now db
  exec h next _ he hwho := by
    have hnever := h hwho
    rw [next] at hnever
    exact (hnever _ (G.refl _ _) _).2 _ _ he
  rely h hR hwho := never_rely (h hwho) hR

/-- **Runs keep transactions faultless.** -/
theorem Sound.never_run (hv : G.Verified program)
    (hn : ∀ r, who r → ∀ now db, G.never bad now (program r) [] [] db) {ok : DB → Req → Prop} {db₀ : DB}
    {s : State DB Write Lock Err Stmt Val Req ε α} (h : Reachable D program ok db₀ s) :
    Faultless G bad who s :=
  fun i t live hwho fine => Sound.steady (neverFails hn) hv h i t live fine hwho

/-- **No statement fails** with such an error. -/
theorem Faultless.eval_ne {s : State DB Write Lock Err Stmt Val Req ε α} (hs : Faultless G bad who s)
    {i : ℕ} {t : Txn Write Lock Err Stmt Val Req ε α} (live : s.txs i = some t) (hwho : who t.req)
    (fine : t.failed = false) {st : Stmt} {k : Except Err (Val st) → Prog Stmt Val Err ε α}
    (next : t.prog = .exec st k) (o : Oracle) {e : Err}
    (he : D.eval st o t.now (D.view s.db t.writes) = .error e) : ¬ bad e := by
  have hnever := hs i t live hwho fine
  rw [next] at hnever
  exact (hnever s.db (G.refl _ _) o).1 e he

end Runs

end RelyGuarantee

end ReadCommitted

import Sahel.Library.Extension
import Sahel.Library.RowInvariant

/-!
# Rows that change under running programs

A rely-guarantee argument may have assumed that some rows never change, and the larger system then
changes them.  Often the argument can be kept: a program that reads those rows in one statement only
runs as if they had stood still since then.

* `Frozen` names the part of the rows, what others may do to it (`Same`) and the statements that do
  not see the difference (`blind`); a program may run one other (`Prog.Once`);
* **`Fits.run`**: in the larger system every live transaction of the smaller one is on course, on
  the rows with that part as the transaction read it;
* **`Safe.commit_op`**: so a commit is the operation it was, on rows with that part.
-/

set_option autoImplicit false

namespace ReadCommitted

variable {DB Write Lock Err Oracle Stmt Req ReqX ε ε' α β : Type} {Val : Stmt → Type}
variable {X WriteX LockX StmtX P : Type} {ValX : StmtX → Type}

/-! ### The frozen part -/

/-- A part of the rows that the smaller database never writes, and that others may change. -/
structure Frozen {D : Database DB Write Lock Err Oracle Stmt Val} (G : RelyGuarantee D Req)
    (P : Type) where
  part : DB → P
  put : P → DB → DB
  /-- what others may do to it -/
  Same : P → P → Prop
  /-- statements that do not see what others may do -/
  blind : Stmt → Prop
  /-- the statement that sees it -/
  looks : Stmt → Prop
  same_refl : ∀ p, Same p p
  same_symm : ∀ {p q}, Same p q → Same q p
  same_trans : ∀ {p q r}, Same p q → Same q r → Same p r
  put_part : ∀ db, put (part db) db = db
  part_put : ∀ p db, part (put p db) = p
  put_put : ∀ p q db, put p (put q db) = put p db
  apply_put : ∀ p db w, D.apply (put p db) w = put p (D.apply db w)
  rely_put : ∀ {L p db db'} q, G.Rely L (put p db) (put p db') → G.Rely L (put q db) (put q db')
  blind_eval : ∀ {s}, blind s → ∀ {p db} o now, Same p (part db) →
    D.eval s o now (put p db) = D.eval s o now db
  blind_locks : ∀ {s}, blind s → ∀ {p db} o now, Same p (part db) →
    D.locks s o now (put p db) = D.locks s o now db

namespace Frozen

variable {D : Database DB Write Lock Err Oracle Stmt Val} {G : RelyGuarantee D Req}
variable (F : Frozen G P)

theorem view_put (p : P) (W : List Write) (db : DB) :
    D.view (F.put p db) W = F.put p (D.view db W) := by
  induction W generalizing db with
  | nil => rfl
  | cons w W ih =>
    show D.view (D.apply (F.put p db) w) W = _
    rw [F.apply_put]
    exact ih _

theorem part_view (W : List Write) (db : DB) : F.part (D.view db W) = F.part db := by
  have h := F.view_put (F.part db) W db
  rw [F.put_part] at h
  rw [h, F.part_put]

/-- A statement of either database that is not blind. -/
def Looks : Stmt ⊕ StmtX → Prop := Sum.elim (fun s => ¬ F.blind s) (fun _ => True)

/-- The rows a statement of the transaction ran on had this part. -/
def Saw (es : List (Event (DB × X) Oracle (Stmt ⊕ StmtX))) (q : P) : Prop :=
  ∀ e ∈ es, F.Looks e.stmt → F.part e.db.1 = q

/-- On course, on the rows with the part as it was read, or with any if it was not. -/
structure Course (r : Req) (now : ℤ) (p : Prog Stmt Val Err ε α) (L : List Lock) (W : List Write)
    (es : List (Event (DB × X) Oracle (Stmt ⊕ StmtX))) (db : DB) : Prop where
  on : (p.Once F.blind F.looks ∧ (∀ e ∈ es, ¬ F.Looks e.stmt) ∧
      ∀ q, F.Same q (F.part db) → G.wp now p (G.commits r) L W (F.put q db)) ∨
    (p.Only F.blind ∧ ∃ q, F.Same q (F.part db) ∧ F.Saw es q ∧
      G.wp now p (G.commits r) L W (F.put q db))

variable {F} {r : Req} {now : ℤ} {L : List Lock} {W : List Write}
variable {es : List (Event (DB × X) Oracle (Stmt ⊕ StmtX))} {db : DB}

/-- The part as the transaction took it to be. -/
theorem Course.exists_part {p : Prog Stmt Val Err ε α} (h : F.Course r now p L W es db) :
    ∃ q, F.Same q (F.part db) ∧ F.Saw es q ∧ G.wp now p (G.commits r) L W (F.put q db) := by
  rcases h.on with ⟨-, hes, hwp⟩ | ⟨-, q, hq, hsaw, hwp⟩
  · exact ⟨F.part db, F.same_refl _, fun e he hl => absurd hl (hes e he),
      hwp _ (F.same_refl _)⟩
  · exact ⟨q, hq, hsaw, hwp⟩

/-- Commits of others, on rows with any part. -/
theorem Course.move {p : Prog Stmt Val Err ε α} {db' : DB} (h : F.Course r now p L W es db)
    (hsame : F.Same (F.part db') (F.part db)) (hR : ∀ q, G.Rely L (F.put q db) (F.put q db')) :
    F.Course r now p L W es db' := by
  constructor
  rcases h.on with ⟨hp, hes, hwp⟩ | ⟨hp, q, hq, hsaw, hwp⟩
  · refine Or.inl ⟨hp, hes, fun q hq => ?_⟩
    exact RelyGuarantee.wp_rely (RelyGuarantee.commits_stable r)
      (hwp q (F.same_trans hq hsame)) (hR q)
  · refine Or.inr ⟨hp, q, F.same_trans hq (F.same_symm hsame), hsaw, ?_⟩
    exact RelyGuarantee.wp_rely (RelyGuarantee.commits_stable r) hwp (hR q)

/-- **One statement.**  A blind one answers as on the frozen rows; the others freeze them. -/
theorem Course.exec {s : Stmt} {k : Except Err (Val s) → Prog Stmt Val Err ε α}
    (h : F.Course r now (.exec s k) L W es db) {o : Oracle} {v : Val s} {ws : List Write}
    (he : D.eval s o now (D.view db W) = .ok (v, ws)) (x : X) :
    F.Course r now (k (.ok v)) (L ++ D.locks s o now (D.view db W)) (W ++ ws)
      (es ++ [⟨.inl s, o, (db, x)⟩]) db := by
  have hstep : ∀ q, F.blind s → F.Same q (F.part db) →
      G.wp now (.exec s k) (G.commits r) L W (F.put q db) →
      G.wp now (k (.ok v)) (G.commits r) (L ++ D.locks s o now (D.view db W)) (W ++ ws)
        (F.put q db) := by
    intro q hs hq hwp
    have hq' : F.Same q (F.part (D.view db W)) := by rwa [F.part_view]
    have hw := hwp (F.put q db) (G.refl _ _) o v ws
    rw [F.view_put, F.blind_eval hs o now hq', F.blind_locks hs o now hq'] at hw
    exact hw he
  constructor
  rcases h.on with ⟨hp, hes, hwp⟩ | ⟨hp, q, hq, hsaw, hwp⟩
  · cases hp with
    | skip hs hk =>
      refine Or.inl ⟨hk _, ?_, fun q hq => hstep q hs hq (hwp q hq)⟩
      intro e hmem
      rcases List.mem_append.mp hmem with hmem | hmem
      · exact hes e hmem
      · rw [List.mem_singleton.mp hmem]
        exact fun hl => hl hs
    | look _ hk =>
      refine Or.inr ⟨hk _, F.part db, F.same_refl _, ?_, ?_⟩
      · intro e hmem hl
        rcases List.mem_append.mp hmem with hmem | hmem
        · exact absurd hl (hes e hmem)
        · rw [List.mem_singleton.mp hmem]
      · have hw := hwp (F.part db) (F.same_refl _)
        rw [F.put_part] at hw ⊢
        exact hw db (G.refl _ _) o v ws he
  · refine Or.inr ⟨hp.next _, q, hq, ?_, hstep q hp.stmt hq hwp⟩
    intro e hmem hl
    rcases List.mem_append.mp hmem with hmem | hmem
    · exact hsaw e hmem hl
    · rw [List.mem_singleton.mp hmem] at hl
      exact absurd hp.stmt hl

/-! ### The larger system -/

section System

variable (F) (E : Extra D X WriteX LockX StmtX ValX)
variable (program : Req → Prog Stmt Val Err ε α)
variable (programX : ReqX → Prog (Stmt ⊕ StmtX) (Sum.elim Val ValX) Err ε β)

/-- An added statement. -/
def Added (s : Stmt ⊕ StmtX) : Prop := ∃ x, s = Sum.inr x

/-- The programs of the smaller database look once, and those added change the part as others
may. -/
structure Fits : Prop where
  verified : G.Verified program
  once : ∀ r, (program r).Once F.blind F.looks
  added : ∀ r, (programX r).Only Added
  changes : ∀ d w, ∃ q, (E.apply d w).1 = F.put q d.1 ∧ F.Same q (F.part d.1)

variable {E program programX}

theorem Fits.view_inr (h : F.Fits E program programX) (W : List WriteX) (d : DB × X) :
    ∃ q, (E.database.view d (W.map Sum.inr)).1 = F.put q d.1 ∧ F.Same q (F.part d.1) := by
  induction W generalizing d with
  | nil => exact ⟨F.part d.1, (F.put_part d.1).symm, F.same_refl _⟩
  | cons w W ih =>
    obtain ⟨q, hq, hsame⟩ := h.changes d w
    obtain ⟨q', hq', hsame'⟩ := ih (E.apply d w)
    refine ⟨q', ?_, ?_⟩
    · rw [hq, F.put_put] at hq'
      exact hq'
    · rw [hq, F.part_put] at hsame'
      exact F.same_trans hsame' hsame

variable (E program programX) in
/-- Every live transaction is on course. -/
structure Safe (l : Logged (DB × X) (Write ⊕ WriteX) (Lock ⊕ LockX) Err Oracle (Stmt ⊕ StmtX)
    (Sum.elim Val ValX) (Req ⊕ ReqX) ε (α ⊕ β)) : Prop where
  base : ∀ i t r, l.state.txs i = some t → t.req = .inl r → t.failed = false →
    ∃ (p : Prog Stmt Val Err ε α) (L : List Lock) (W : List Write), t.prog = p.lift Sum.inl ∧
      t.locks = L.map Sum.inl ∧ t.writes = W.map Sum.inl ∧
      F.Course r t.now p L W (l.log i) l.state.db.1
  added : ∀ i t r, l.state.txs i = some t → t.req = .inr r →
    t.prog.Only Added ∧ ∃ W : List WriteX, t.writes = W.map Sum.inr

variable {l l' : Logged (DB × X) (Write ⊕ WriteX) (Lock ⊕ LockX) Err Oracle (Stmt ⊕ StmtX)
  (Sum.elim Val ValX) (Req ⊕ ReqX) ε (α ⊕ β)}

theorem safe_quiet (d : DB × X) : F.Safe (Logged.quiet d :
    Logged (DB × X) (Write ⊕ WriteX) (Lock ⊕ LockX) Err Oracle (Stmt ⊕ StmtX) (Sum.elim Val ValX)
      (Req ⊕ ReqX) ε (α ⊕ β)) := by
  constructor
  · intro i t r ht
    cases ht
  · intro i t r ht
    cases ht

variable {F}

/-- One transaction moves on and the rows stay. -/
theorem Safe.update (hs : F.Safe l) (i : ℕ) {t : Txn (Write ⊕ WriteX) (Lock ⊕ LockX) Err
      (Stmt ⊕ StmtX) (Sum.elim Val ValX) (Req ⊕ ReqX) ε (α ⊕ β)}
    (log : List (Event (DB × X) Oracle (Stmt ⊕ StmtX)))
    (hbase : ∀ r, t.req = .inl r → t.failed = false →
      ∃ (p : Prog Stmt Val Err ε α) (L : List Lock) (W : List Write), t.prog = p.lift Sum.inl ∧
        t.locks = L.map Sum.inl ∧ t.writes = W.map Sum.inl ∧
        F.Course r t.now p L W log l.state.db.1)
    (hadded : ∀ r, t.req = .inr r → t.prog.Only Added ∧ ∃ W : List WriteX, t.writes = W.map Sum.inr) :
    F.Safe ⟨⟨l.state.db, Function.update l.state.txs i (some t)⟩, Function.update l.log i log⟩ := by
  constructor
  · intro j u r hu hr hf
    rcases live_update hu with ⟨rfl, rfl⟩ | ⟨hj, hu⟩
    · simp only [Function.update_self]
      exact hbase r hr hf
    · simp only [Function.update_of_ne hj]
      exact hs.base j u r hu hr hf
  · intro j u r hu hr
    rcases live_update hu with ⟨rfl, rfl⟩ | ⟨-, hu⟩
    · exact hadded r hr
    · exact hs.added j u r hu hr

/-- A transaction ends and the rows move as the others allow. -/
theorem Safe.finish (hs : F.Safe l) (i : ℕ) {d' : DB × X}
    (hsame : F.Same (F.part d'.1) (F.part l.state.db.1))
    (hR : ∀ j u, j ≠ i → l.state.txs j = some u → ∀ L : List Lock, u.locks = L.map Sum.inl →
      ∀ q, G.Rely L (F.put q l.state.db.1) (F.put q d'.1)) :
    F.Safe ⟨⟨d', Function.update l.state.txs i none⟩, l.log⟩ := by
  constructor
  · intro j u r hu hr hf
    obtain ⟨hj, hu⟩ := live_end hu
    obtain ⟨p, L, W, hp, hL, hW, hc⟩ := hs.base j u r hu hr hf
    exact ⟨p, L, W, hp, hL, hW, hc.move hsame (hR j u hj hu L hL)⟩
  · intro j u r hu hr
    exact hs.added j u r (live_end hu).2 hr

/-- **A commit of the smaller system is its operation**, on the rows with the part as it was
read. -/
theorem Safe.commit_op (hs : F.Safe l) {i : ℕ} {t : Txn (Write ⊕ WriteX) (Lock ⊕ LockX) Err
      (Stmt ⊕ StmtX) (Sum.elim Val ValX) (Req ⊕ ReqX) ε (α ⊕ β)} {a : α ⊕ β} {r : Req}
    (live : l.state.txs i = some t) (done : t.prog = .pure a) (fine : t.failed = false)
    (hr : t.req = .inl r) : ∃ (q : P) (L : List Lock) (W : List Write),
      t.locks = L.map Sum.inl ∧ t.writes = W.map Sum.inl ∧
      F.Same q (F.part l.state.db.1) ∧ F.Saw (l.log i) q ∧
      G.Op r L (F.put q l.state.db.1) (F.put q (D.view l.state.db.1 W)) := by
  obtain ⟨p, L, W, hp, hL, hW, hc⟩ := hs.base i t r live hr fine
  obtain ⟨q, hq, hsaw, hwp⟩ := hc.exists_part
  refine ⟨q, L, W, hL, hW, hq, hsaw, ?_⟩
  rw [hp] at done
  cases p with
  | pure b =>
    rw [← F.view_put]
    exact hwp _ (G.refl _ _)
  | throw e => cases done
  | exec s k => cases done

/-- A transaction begins on course. -/
theorem Safe.start (hs : F.Safe l) (hf : F.Fits E program programX) (i : ℕ) (r : Req ⊕ ReqX) (now : ℤ) :
    F.Safe ⟨⟨l.state.db, Function.update l.state.txs i
      (some (Txn.start (Extra.system program programX) r now))⟩, Function.update l.log i []⟩ := by
  refine hs.update i [] ?_ ?_
  · intro r₀ hr _
    change r = .inl r₀ at hr
    subst hr
    refine ⟨program r₀, [], [], rfl, rfl, rfl, ⟨Or.inl ⟨hf.once r₀, ?_, ?_⟩⟩⟩
    · intro e he
      exact absurd he List.not_mem_nil
    · intro q _
      exact hf.verified r₀ now _
  · intro r₀ hr
    change r = .inr r₀ at hr
    subst hr
    exact ⟨Prog.only_map _ (hf.added r₀), [], rfl⟩

section Exec

variable {i : ℕ} {t : Txn (Write ⊕ WriteX) (Lock ⊕ LockX) Err (Stmt ⊕ StmtX) (Sum.elim Val ValX)
  (Req ⊕ ReqX) ε (α ⊕ β)} {st : Stmt ⊕ StmtX}
variable {k : Except Err (Sum.elim Val ValX st) → Prog (Stmt ⊕ StmtX) (Sum.elim Val ValX) Err ε (α ⊕ β)}

/-- A statement of the smaller system is run on course. -/
theorem Safe.exec_base (hs : F.Safe l) (o : Oracle) (live : l.state.txs i = some t)
    (next : t.prog = .exec st k) (fine : t.failed = false) {r₀ : Req} (hr : t.req = .inl r₀)
    (hfine : (t.run E.database l.state.db st k o).failed = false) :
    ∃ (p : Prog Stmt Val Err ε α) (L : List Lock) (W : List Write),
      (t.run E.database l.state.db st k o).prog = p.lift Sum.inl ∧
      (t.run E.database l.state.db st k o).locks = L.map Sum.inl ∧
      (t.run E.database l.state.db st k o).writes = W.map Sum.inl ∧
      F.Course r₀ (t.run E.database l.state.db st k o).now p L W
        (l.log i ++ [⟨st, o, l.state.db⟩]) l.state.db.1 := by
  obtain ⟨p, L, W, hp, hL, hW, hc⟩ := hs.base i t r₀ live hr fine
  rw [next] at hp
  cases p with
  | pure b => cases hp
  | throw e => cases hp
  | exec s k₀ =>
    cases hp
    cases he : E.database.eval (.inl s) o t.now (E.database.view l.state.db t.writes) with
    | error e =>
      simp only [Txn.run, he] at hfine
      cases hfine
    | ok res =>
      obtain ⟨v, ws⟩ := res
      obtain ⟨ws₀, he₀, rfl⟩ := Extra.eval_inl he
      have hview : E.database.view l.state.db t.writes = (D.view l.state.db.1 W, l.state.db.2) := by
        rw [hW]
        exact Extra.view_inl _ _
      simp only [Txn.run, he]
      refine ⟨k₀ (.ok v), L ++ D.locks s o t.now (D.view l.state.db.1 W), W ++ ws₀, rfl, ?_, ?_, ?_⟩
      · rw [hview, hL, List.map_append]
        rfl
      · rw [hW, List.map_append]
      · rw [hview] at he₀
        exact hc.exec he₀ l.state.db.2

/-- An added statement writes outside the smaller system. -/
theorem Safe.exec_added (hs : F.Safe l) (o : Oracle) (live : l.state.txs i = some t)
    (next : t.prog = .exec st k) {r₀ : ReqX} (hr : t.req = .inr r₀) :
    (t.run E.database l.state.db st k o).prog.Only Added ∧
      ∃ W : List WriteX, (t.run E.database l.state.db st k o).writes = W.map Sum.inr := by
  obtain ⟨honly, W, hW⟩ := hs.added i t r₀ live hr
  rw [next] at honly
  obtain ⟨x, rfl⟩ := honly.stmt
  unfold Txn.run
  cases he : E.database.eval (.inr x) o t.now (E.database.view l.state.db t.writes) with
  | error e => exact ⟨honly.next _, W, hW⟩
  | ok res =>
    obtain ⟨v, ws⟩ := res
    obtain ⟨ws₀, -, rfl⟩ := Extra.eval_inr he
    exact ⟨honly.next _, W ++ ws₀, by rw [hW, List.map_append]⟩

end Exec

/-- **Runs of the larger system keep every transaction on course.** -/
theorem Fits.run (hf : F.Fits E program programX)
    {ok : Logged (DB × X) (Write ⊕ WriteX) (Lock ⊕ LockX) Err Oracle (Stmt ⊕ StmtX)
      (Sum.elim Val ValX) (Req ⊕ ReqX) ε (α ⊕ β) → ℕ → Req ⊕ ReqX → Prop}
    {d₀ : DB × X} {rs : List (Req ⊕ ReqX)}
    (h : LRun E.database (Extra.system program programX) ok (Logged.quiet d₀) rs l) : F.Safe l := by
  induction h with
  | refl => exact safe_quiet F d₀
  | @quiet rs l l' hrun hstep ih =>
    cases hstep with
    | start i r now free => exact ih.start hf i r now
    | @exec i t st k o live next fine free =>
      refine ih.update i _ ?_ ?_
      · intro r₀ hr hfine
        rw [Txn.run_req] at hr
        exact ih.exec_base o live next fine hr hfine
      · intro r₀ hr
        rw [Txn.run_req] at hr
        exact ih.exec_added o live next hr
    | @refused i t st k live next bad =>
      rw [← Function.update_eq_self i l.log]
      refine ih.update i (l.log i) ?_ ?_
      · intro r₀ hr hfine
        exact absurd (bad.symm.trans hfine) (by simp)
      · intro r₀ hr
        obtain ⟨honly, W, hW⟩ := ih.added i t r₀ live hr
        rw [next] at honly
        exact ⟨honly.next _, W, hW⟩
    | @abort i t live =>
      exact ih.finish i (F.same_refl _) (fun _ _ _ _ _ _ _ => G.refl _ _)
  | @commit rs l l' i r hrun hstep hok ih =>
    cases hstep with
    | @commit _ t a live done fine =>
      cases hr : t.req with
      | inl r₀ =>
        obtain ⟨q, L, W, hL, hW, hq, -, hop⟩ := ih.commit_op live done fine hr
        rw [hW, Extra.view_inl]
        refine ih.finish i ?_ ?_
        · rw [F.part_view]
          exact F.same_refl _
        · intro j u hj hu L' hL' q'
          have hcomp := hrun.apart (Ne.symm hj) live hu
          rw [hL, hL'] at hcomp
          exact F.rely_put q' (G.guarantee hop (Extra.compatible_inl hcomp))
      | inr r₀ =>
        obtain ⟨-, W, hW⟩ := ih.added i t r₀ live hr
        obtain ⟨q, hq, hsame⟩ := hf.view_inr F W l.state.db
        rw [hW]
        refine ih.finish i ?_ ?_
        · rw [hq, F.part_put]
          exact hsame
        · intro j u _ _ L' _ q'
          rw [hq, F.put_put]
          exact G.refl _ _

/-- **Invariants that do not mention the part** hold in the larger system. -/
theorem Fits.invariant (hf : F.Fits E program programX) {ok : DB × X → Req ⊕ ReqX → Prop}
    {d₀ : DB × X} {s : State (DB × X) (Write ⊕ WriteX) (Lock ⊕ LockX) Err (Stmt ⊕ StmtX)
      (Sum.elim Val ValX) (Req ⊕ ReqX) ε (α ⊕ β)}
    (h : Reachable E.database (Extra.system program programX) ok d₀ s) {I : DB → Prop}
    (hput : ∀ q db, I (F.put q db) ↔ I db) (h₀ : I d₀.1)
    (hop : ∀ {r L db db'}, I db → G.Op r L db db' → I db') : I s.db.1 := by
  have hlogged := LRun.of_run h (fun _ => ([] : List (Event (DB × X) Oracle (Stmt ⊕ StmtX))))
  obtain ⟨rs, log, hrun⟩ := hlogged
  have hinv : ∀ {rs l}, LRun E.database (Extra.system program programX) always
      (Logged.quiet d₀) rs l → I l.state.db.1 := by
    intro rs l hrun
    induction hrun with
    | refl => exact h₀
    | quiet _ hstep ih =>
      have hdb := (hstep.step _ _).db_eq
      rw [hdb]
      exact ih
    | @commit rs l l' i r hrun hstep _ ih =>
      have hsafe := hf.run hrun
      cases hstep with
      | @commit _ t a live done fine =>
        cases hr : t.req with
        | inl r₀ =>
          obtain ⟨q, L, W, -, hW, -, -, hop'⟩ := hsafe.commit_op live done fine hr
          rw [hW, Extra.view_inl]
          exact (hput q _).mp (hop ((hput q _).mpr ih) hop')
        | inr r₀ =>
          obtain ⟨-, W, hW⟩ := hsafe.added i t r₀ live hr
          obtain ⟨q, hq, -⟩ := hf.view_inr F W _
          rw [hW, hq]
          exact (hput q _).mpr ih
  exact hinv hrun

end System

end Frozen

end ReadCommitted

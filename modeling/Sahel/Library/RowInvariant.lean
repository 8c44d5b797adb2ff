import Sahel.Library.ReadCommitted

/-!
# Invariants of single writes

Some facts about committed rows need no lock: a foreign key, or a column that goes with another.
Each write keeps such a fact by itself, whatever other transactions commit before it does, because
the rows it refers to are never removed.

* `RowInvariant` is the argument: what a write asks of the rows it is applied to (`Fits`) survives
  any further growth of them (`Grows`);
* `Prog.Only` says that a program runs no other statements than some, and has a rule for each way
  programs are put together; `Prog.Once` allows one statement more, once;
* **`Good.run`**: along every run the fact holds, and every pending write still fits.
-/

set_option autoImplicit false

namespace ReadCommitted

variable {DB Write Lock Err Oracle Stmt Req ε ε' α β : Type} {Val : Stmt → Type}

/-! ### Programs of some statements -/

namespace Prog

/-- Every statement the program may run is one of `ok`. -/
inductive Only (ok : Stmt → Prop) : Prog Stmt Val Err ε α → Prop where
  | pure (a : α) : Only ok (.pure a)
  | throw (e : ε) : Only ok (.throw e)
  | exec {s k} (h : ok s) (hk : ∀ r, Only ok (k r)) : Only ok (.exec s k)

variable {ok : Stmt → Prop}

theorem only_pure (a : α) : (pure a : Prog Stmt Val Err ε α).Only ok := .pure a

theorem Only.stmt {s : Stmt} {k : Except Err (Val s) → Prog Stmt Val Err ε α}
    (h : (Prog.exec s k).Only ok) : ok s := by
  cases h with
  | exec h hk => exact h

theorem Only.next {s : Stmt} {k : Except Err (Val s) → Prog Stmt Val Err ε α}
    (h : (Prog.exec s k).Only ok) (r : Except Err (Val s)) : (k r).Only ok := by
  cases h with
  | exec h hk => exact hk r

theorem only_bind {p : Prog Stmt Val Err ε α} {f : α → Prog Stmt Val Err ε β} (hp : p.Only ok)
    (hf : ∀ a, (f a).Only ok) : (p >>= f).Only ok := by
  show (p.bind f).Only ok
  induction hp with
  | pure a => exact hf a
  | throw e => exact .throw e
  | exec h _ ih => exact .exec h ih

theorem only_map {p : Prog Stmt Val Err ε α} (f : α → β) (hp : p.Only ok) : (f <$> p).Only ok :=
  only_bind hp (fun a => .pure (f a))

theorem only_mapErr {p : Prog Stmt Val Err ε α} (g : ε → ε') (hp : p.Only ok) :
    (p.mapErr g).Only ok := by
  induction hp with
  | pure a => exact .pure a
  | throw e => exact .throw (g e)
  | exec h _ ih => exact .exec h ih

theorem only_query (lift : Err → ε) {s : Stmt} (h : ok s) :
    (query lift s : Prog Stmt Val Err ε (Val s)).Only ok := by
  refine .exec h (fun r => ?_)
  cases r with
  | ok v => exact .pure v
  | error e => exact .throw (lift e)

theorem only_attempt {s : Stmt} (h : ok s) :
    (attempt s : Prog Stmt Val Err ε (Except Err (Val s))).Only ok :=
  .exec h .pure

theorem only_refuse (bad : Prop) [Decidable bad] (e : ε) :
    (refuse bad e : Prog Stmt Val Err ε PUnit).Only ok := by
  unfold refuse
  split
  · exact .throw e
  · exact .pure _

theorem only_require (x : Option α) (e : ε) : (require x e : Prog Stmt Val Err ε α).Only ok := by
  cases x with
  | none => exact .throw e
  | some a => exact .pure a

theorem only_check (x : Except ε' α) (g : ε' → ε) :
    (check x g : Prog Stmt Val Err ε α).Only ok := by
  cases x with
  | error e => exact .throw (g e)
  | ok a => exact .pure a

/-- What follows a check runs only when it has passed. -/
theorem only_check_bind {x : Except ε' α} {g : ε' → ε} {f : α → Prog Stmt Val Err ε β}
    (h : ∀ a, x = .ok a → (f a).Only ok) : (check x g >>= f).Only ok := by
  cases x with
  | error e => exact .throw (g e)
  | ok a => exact h a rfl

theorem only_require_bind {x : Option α} {e : ε} {f : α → Prog Stmt Val Err ε β}
    (h : ∀ a, x = some a → (f a).Only ok) : (require x e >>= f).Only ok := by
  cases x with
  | none => exact .throw e
  | some a => exact h a rfl

end Prog

/-! ### Programs that look once -/

namespace Prog

/-- At most one statement is one of `look`; the others are all of `blind`. -/
inductive Once (blind look : Stmt → Prop) : Prog Stmt Val Err ε α → Prop where
  | pure (a : α) : Once blind look (.pure a)
  | throw (e : ε) : Once blind look (.throw e)
  | skip {s k} (h : blind s) (hk : ∀ r, Once blind look (k r)) : Once blind look (.exec s k)
  | look {s k} (h : look s) (hk : ∀ r, (k r).Only blind) : Once blind look (.exec s k)

variable {blind look : Stmt → Prop}

theorem Only.mono {ok ok' : Stmt → Prop} {p : Prog Stmt Val Err ε α} (h : p.Only ok)
    (hok : ∀ s, ok s → ok' s) : p.Only ok' := by
  induction h with
  | pure a => exact .pure a
  | throw e => exact .throw e
  | exec h _ ih => exact .exec (hok _ h) ih

theorem Only.once {p : Prog Stmt Val Err ε α} (h : p.Only blind) : p.Once blind look := by
  induction h with
  | pure a => exact .pure a
  | throw e => exact .throw e
  | exec h _ ih => exact .skip h ih

theorem Once.only {p : Prog Stmt Val Err ε α} (h : p.Once blind look) :
    p.Only (fun s => blind s ∨ look s) := by
  induction h with
  | pure a => exact .pure a
  | throw e => exact .throw e
  | skip h _ ih => exact .exec (Or.inl h) ih
  | look h hk => exact .exec (Or.inr h) (fun r => (hk r).mono (fun _ => Or.inl))

theorem Once.mono {blind' look' : Stmt → Prop} {p : Prog Stmt Val Err ε α} (h : p.Once blind look)
    (hblind : ∀ s, blind s → blind' s) (hlook : ∀ s, look s → look' s) : p.Once blind' look' := by
  induction h with
  | pure a => exact .pure a
  | throw e => exact .throw e
  | skip h _ ih => exact .skip (hblind _ h) ih
  | look h hk => exact .look (hlook _ h) (fun r => (hk r).mono hblind)

/-- Nothing is looked at before `f`. -/
theorem Once.bind_right {p : Prog Stmt Val Err ε α} {f : α → Prog Stmt Val Err ε β}
    (hp : p.Only blind) (hf : ∀ a, (f a).Once blind look) : (p >>= f).Once blind look := by
  show (p.bind f).Once blind look
  induction hp with
  | pure a => exact hf a
  | throw e => exact .throw e
  | exec h _ ih => exact .skip h ih

/-- Nothing is looked at in `f`. -/
theorem Once.bind_left {p : Prog Stmt Val Err ε α} {f : α → Prog Stmt Val Err ε β}
    (hp : p.Once blind look) (hf : ∀ a, (f a).Only blind) : (p >>= f).Once blind look := by
  show (p.bind f).Once blind look
  induction hp with
  | pure a => exact (hf a).once
  | throw e => exact .throw e
  | skip h _ ih => exact .skip h ih
  | look h hk => exact .look h (fun r => only_bind (hk r) hf)

theorem Once.map {p : Prog Stmt Val Err ε α} (f : α → β) (hp : p.Once blind look) :
    (f <$> p).Once blind look :=
  hp.bind_left (fun a => .pure (f a))

theorem Once.mapErr {p : Prog Stmt Val Err ε α} (g : ε → ε') (hp : p.Once blind look) :
    (p.mapErr g).Once blind look := by
  induction hp with
  | pure a => exact .pure a
  | throw e => exact .throw (g e)
  | skip h _ ih => exact .skip h ih
  | look h hk => exact .look h (fun r => only_mapErr g (hk r))

theorem once_query (lift : Err → ε) {s : Stmt} (h : look s) :
    (query lift s : Prog Stmt Val Err ε (Val s)).Once blind look := by
  refine .look h (fun r => ?_)
  cases r with
  | ok v => exact .pure v
  | error e => exact .throw (lift e)

end Prog

/-! ### The argument -/

/-- A fact that single writes keep. -/
structure RowInvariant (D : Database DB Write Lock Err Oracle Stmt Val) where
  /-- the statements it is about -/
  ok : Stmt → Prop
  /-- the rows have become more, or changed without giving up their keys -/
  Grows : DB → DB → Prop
  /-- what a write asks of the rows it is applied to -/
  Fits : DB → Write → Prop
  Holds : DB → Prop
  refl : ∀ db, Grows db db
  trans : ∀ {db₁ db₂ db₃}, Grows db₁ db₂ → Grows db₂ db₃ → Grows db₁ db₃
  apply_grows : ∀ db w, Grows db (D.apply db w)
  apply_mono : ∀ {db db'} w, Grows db db' → Grows (D.apply db w) (D.apply db' w)
  fits_grows : ∀ {db db' w}, Grows db db' → Fits db w → Fits db' w
  keeps : ∀ {db w}, Holds db → Fits db w → Holds (D.apply db w)
  eval_fits : ∀ {s o now db v ws}, ok s → Holds db → D.eval s o now db = .ok (v, ws) →
    ∀ w ∈ ws, Fits db w

namespace RowInvariant

variable {D : Database DB Write Lock Err Oracle Stmt Val} (I : RowInvariant D)

/-- Writes that fit one after the other. -/
def FitsAll : DB → List Write → Prop
  | _, [] => True
  | db, w :: ws => I.Fits db w ∧ FitsAll (D.apply db w) ws

variable {I}

theorem FitsAll.grows {db db' : DB} {W : List Write} (h : I.FitsAll db W) (hg : I.Grows db db') :
    I.FitsAll db' W := by
  induction W generalizing db db' with
  | nil => trivial
  | cons w W ih => exact ⟨I.fits_grows hg h.1, ih h.2 (I.apply_mono w hg)⟩

theorem fitsAll_append {db : DB} {W W' : List Write} :
    I.FitsAll db (W ++ W') ↔ I.FitsAll db W ∧ I.FitsAll (D.view db W) W' := by
  induction W generalizing db with
  | nil => exact (and_iff_right trivial).symm
  | cons w W ih =>
    rw [List.cons_append, FitsAll, ih, FitsAll, and_assoc]
    exact Iff.rfl

theorem fitsAll_of_forall {db : DB} {W : List Write} (h : ∀ w ∈ W, I.Fits db w) :
    I.FitsAll db W := by
  induction W generalizing db with
  | nil => trivial
  | cons w W ih =>
    refine ⟨h w List.mem_cons_self, ih (fun w' hw' => ?_)⟩
    exact I.fits_grows (I.apply_grows db w) (h w' (List.mem_cons_of_mem _ hw'))

theorem view_grows {db : DB} {W : List Write} : I.Grows db (D.view db W) := by
  induction W generalizing db with
  | nil => exact I.refl db
  | cons w W ih => exact I.trans (I.apply_grows db w) ih

theorem FitsAll.holds {db : DB} {W : List Write} (h : I.FitsAll db W) (hd : I.Holds db) :
    I.Holds (D.view db W) := by
  induction W generalizing db with
  | nil => exact hd
  | cons w W ih => exact ih h.2 (I.keeps hd h.1)

/-! ### Along a run -/

variable (I) in
/-- The fact holds, and every pending write fits. -/
structure Good (s : State DB Write Lock Err Stmt Val Req ε α) : Prop where
  holds : I.Holds s.db
  only : ∀ i t, s.txs i = some t → t.prog.Only I.ok
  fits : ∀ i t, s.txs i = some t → I.FitsAll s.db t.writes

theorem good_quiet {db : DB} (h : I.Holds db) :
    I.Good (State.quiet db : State DB Write Lock Err Stmt Val Req ε α) := by
  refine ⟨h, ?_, ?_⟩
  · intro i t ht
    cases ht
  · intro i t ht
    cases ht

/-- Changing one transaction while the committed rows stay. -/
theorem Good.update {s : State DB Write Lock Err Stmt Val Req ε α} (hs : I.Good s) (i : ℕ)
    {t : Txn Write Lock Err Stmt Val Req ε α} (ho : t.prog.Only I.ok)
    (hf : I.FitsAll s.db t.writes) :
    I.Good { s with txs := Function.update s.txs i (some t) } := by
  refine ⟨hs.holds, ?_, ?_⟩
  · intro j u hu
    rcases live_update hu with ⟨rfl, rfl⟩ | ⟨-, hu⟩
    · exact ho
    · exact hs.only j u hu
  · intro j u hu
    rcases live_update hu with ⟨rfl, rfl⟩ | ⟨-, hu⟩
    · exact hf
    · exact hs.fits j u hu

/-- Ending a transaction and letting the committed rows grow. -/
theorem Good.finish {s : State DB Write Lock Err Stmt Val Req ε α} (hs : I.Good s) (i : ℕ) {db' : DB}
    (hd : I.Holds db') (hg : I.Grows s.db db') : I.Good ⟨db', Function.update s.txs i none⟩ := by
  refine ⟨hd, fun j u hu => ?_, fun j u hu => ?_⟩
  · exact hs.only j u (live_end hu).2
  · exact (hs.fits j u (live_end hu).2).grows hg

variable {program : Req → Prog Stmt Val Err ε α}

/-- **One step keeps a state good, and lets its committed rows grow.** -/
theorem Good.step (hp : ∀ r, (program r).Only I.ok)
    {s s' : State DB Write Lock Err Stmt Val Req ε α} (hs : I.Good s) {lab : Option Req}
    (h : Step D program s lab s') : I.Good s' ∧ I.Grows s.db s'.db := by
  cases h with
  | start i r now free => exact ⟨hs.update i (hp r) trivial, I.refl s.db⟩
  | @exec i t st k o live next fine free =>
    refine ⟨?_, I.refl s.db⟩
    have ho := hs.only i t live
    rw [next] at ho
    have hf := hs.fits i t live
    refine hs.update i ?_ ?_
    · unfold Txn.run
      cases D.eval st o t.now (D.view s.db t.writes) with
      | ok res => exact ho.next _
      | error e => exact ho.next _
    · unfold Txn.run
      cases he : D.eval st o t.now (D.view s.db t.writes) with
      | ok res =>
        refine fitsAll_append.mpr ⟨hf, fitsAll_of_forall ?_⟩
        exact I.eval_fits ho.stmt (hf.holds hs.holds) he
      | error e => exact hf
  | @refused i t st k live next bad =>
    have ho := hs.only i t live
    rw [next] at ho
    exact ⟨hs.update i (ho.next _) (hs.fits i t live), I.refl s.db⟩
  | @commit i t a live done fine =>
    have hf := hs.fits i t live
    exact ⟨hs.finish i (hf.holds hs.holds) view_grows, view_grows⟩
  | abort i live => exact ⟨hs.finish i hs.holds (I.refl s.db), I.refl s.db⟩

/-- **Runs keep states good.** -/
theorem Good.run (hp : ∀ r, (program r).Only I.ok) {ok : DB → Req → Prop}
    {s₀ s : State DB Write Lock Err Stmt Val Req ε α} (hs : I.Good s₀)
    (h : Run D program ok s₀ s) : I.Good s ∧ I.Grows s₀.db s.db := by
  induction h with
  | refl => exact ⟨hs, I.refl _⟩
  | step _ h _ ih =>
    obtain ⟨hg, hgrow⟩ := ih.1.step hp h
    exact ⟨hg, I.trans ih.2 hgrow⟩

end RowInvariant

end ReadCommitted

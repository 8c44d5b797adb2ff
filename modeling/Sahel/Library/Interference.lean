import Sahel.Library.RowInvariant

/-!
# Interference: from statement interleavings to atomic operations

A transaction runs between other transactions' commits.  What those commits can do to the rows
it has read is limited by the locks it holds.  `RelyGuarantee` packages that argument:

* `Op r L db db'`: what serving request `r` with locks `L` does to the committed rows, as if in
  one atomic step;
* `Rely L db db'`: what commits of other transactions may do while locks `L` are held;
* `guarantee`: an operation never does, to a holder of compatible locks, more than its rely.

`wp` is a program's weakest precondition under that interference: before every statement the
committed rows may move by any `Rely` step.  Once every program satisfies its `wp`:

* **`Sound.run`**: in every state of a run every live transaction is still on course, and no two
  live transactions hold conflicting locks;
* **`Sound.steady`**: so is any condition on a transaction that its own statements and the commits of
  others keep;
* **`Sound.serial`**: the committed rows of every state of a run are reached by atomic operations
  one after the other — the interleaved system refines the serial one;
* **`Serial.invariant`**: so an invariant of the operations holds along every run.
-/

set_option autoImplicit false

namespace ReadCommitted

variable {DB Write Lock Err Oracle Stmt Req ε ε' α β : Type} {Val : Stmt → Type}
variable {D : Database DB Write Lock Err Oracle Stmt Val}

/-- Atomic operations and the interference they cause. -/
structure RelyGuarantee (D : Database DB Write Lock Err Oracle Stmt Val) (Req : Type) where
  Op : Req → List Lock → DB → DB → Prop
  Rely : List Lock → DB → DB → Prop
  refl : ∀ L db, Rely L db db
  trans : ∀ {L db₁ db₂ db₃}, Rely L db₁ db₂ → Rely L db₂ db₃ → Rely L db₁ db₃
  guarantee : ∀ {r L L' db db'}, Op r L db db' → D.Compatible L L' → Rely L' db db'

namespace RelyGuarantee

variable (G : RelyGuarantee D Req)

/-- A condition on a finished program: its value, locks, pending writes and the committed rows. -/
abbrev Post (Lock Write DB α : Type) : Type := α → List Lock → List Write → DB → Prop

/-- The weakest precondition of a program whose statements are interleaved with commits of
others.  A failed or refused program commits nothing, so nothing is asked of it. -/
def wp (now : ℤ) : Prog Stmt Val Err ε α → Post Lock Write DB α → List Lock → List Write → DB → Prop
  | .pure a, Q, L, W, db => Q a L W db
  | .throw _, _, _, _, _ => True
  | .exec s k, Q, L, W, db =>
    ∀ db', G.Rely L db db' → ∀ o v ws, D.eval s o now (D.view db' W) = .ok (v, ws) →
      wp now (k (.ok v)) Q (L ++ D.locks s o now (D.view db' W)) (W ++ ws) db'

/-- The program may commit: its writes are the operation it stands for, whatever others commit
in the meantime. -/
def commits (r : Req) : Post Lock Write DB α :=
  fun _ L W db => ∀ db', G.Rely L db db' → G.Op r L db' (D.view db' W)

/-! ### Rules -/

variable {G} {now : ℤ}

/-- A condition on the finished program is **stable** when commits of others keep it. -/
def Stable (G : RelyGuarantee D Req) (Q : Post Lock Write DB α) : Prop :=
  ∀ a L W db db', Q a L W db → G.Rely L db db' → Q a L W db'

theorem commits_stable (r : Req) : G.Stable (G.commits r : Post Lock Write DB α) := by
  intro a L W db db' hQ hR db'' hR'
  exact hQ db'' (G.trans hR hR')

/-- Commits of others keep a weakest precondition. -/
theorem wp_rely {Q : Post Lock Write DB α} (hQ : G.Stable Q) {p : Prog Stmt Val Err ε α}
    {L : List Lock} {W : List Write} {db db' : DB} (h : G.wp now p Q L W db)
    (hR : G.Rely L db db') : G.wp now p Q L W db' := by
  cases p with
  | pure a => exact hQ _ _ _ _ _ h hR
  | throw e => trivial
  | exec s k =>
    intro db'' hR' o v ws he
    exact h db'' (G.trans hR hR') o v ws he

section Rules

variable {L : List Lock} {W : List Write} {db : DB}

@[simp] theorem wp_pure {Q : Post Lock Write DB α} (a : α) :
    G.wp now (pure a : Prog Stmt Val Err ε α) Q L W db ↔ Q a L W db := Iff.rfl

/-- **Sequencing.** -/
@[simp] theorem wp_bind {Q : Post Lock Write DB β} (p : Prog Stmt Val Err ε α)
    (f : α → Prog Stmt Val Err ε β) :
    G.wp now (p >>= f) Q L W db ↔ G.wp now p (fun a L W db => G.wp now (f a) Q L W db) L W db := by
  show G.wp now (p.bind f) Q L W db ↔ _
  induction p generalizing L W db with
  | pure a => rfl
  | throw e => rfl
  | exec s k ih =>
    simp only [Prog.bind, wp, ih]

theorem wp_map {Q : Post Lock Write DB β} (f : α → β) (p : Prog Stmt Val Err ε α) :
    G.wp now (f <$> p) Q L W db ↔ G.wp now p (fun a L W db => Q (f a) L W db) L W db :=
  wp_bind p (fun a => pure (f a))

/-- Rewording errors changes nothing for what is committed. -/
@[simp] theorem wp_mapErr {Q : Post Lock Write DB α} (g : ε → ε') (p : Prog Stmt Val Err ε α) :
    G.wp now (p.mapErr g) Q L W db ↔ G.wp now p Q L W db := by
  induction p generalizing L W db with
  | pure a => rfl
  | throw e => rfl
  | exec s k ih =>
    simp only [Prog.mapErr, wp, ih]

/-- A query is one statement on the rows as they are when it runs. -/
theorem wp_query {s : Stmt} {Q : Post Lock Write DB (Val s)} (lift : Err → ε) :
    G.wp now (Prog.query lift s : Prog Stmt Val Err ε (Val s)) Q L W db ↔
      ∀ db', G.Rely L db db' → ∀ o v ws, D.eval s o now (D.view db' W) = .ok (v, ws) →
        Q v (L ++ D.locks s o now (D.view db' W)) (W ++ ws) db' := Iff.rfl

/-- A program that looks at the error of a statement: only the successful branch can commit. -/
theorem wp_attempt {s : Stmt} {Q : Post Lock Write DB (Except Err (Val s))} :
    G.wp now (Prog.attempt s : Prog Stmt Val Err ε (Except Err (Val s))) Q L W db ↔
      ∀ db', G.Rely L db db' → ∀ o v ws, D.eval s o now (D.view db' W) = .ok (v, ws) →
        Q (.ok v) (L ++ D.locks s o now (D.view db' W)) (W ++ ws) db' := Iff.rfl

@[simp] theorem wp_refuse {Q : Post Lock Write DB PUnit} (bad : Prop) [Decidable bad] (e : ε) :
    G.wp now (Prog.refuse bad e : Prog Stmt Val Err ε PUnit) Q L W db ↔
      (¬ bad → Q ⟨⟩ L W db) := by
  by_cases h : bad <;> simp [Prog.refuse, wp, h]

@[simp] theorem wp_require {Q : Post Lock Write DB α} (x : Option α) (e : ε) :
    G.wp now (Prog.require x e : Prog Stmt Val Err ε α) Q L W db ↔
      ∀ a, x = some a → Q a L W db := by
  cases x <;> simp [Prog.require, wp]

@[simp] theorem wp_check {Q : Post Lock Write DB α} (x : Except ε' α) (g : ε' → ε) :
    G.wp now (Prog.check x g : Prog Stmt Val Err ε α) Q L W db ↔
      ∀ a, x = .ok a → Q a L W db := by
  cases x <;> simp [Prog.check, wp]

/-- Weaken what is asked of the end. -/
theorem wp_mono {Q Q' : Post Lock Write DB α} (hQ : ∀ a L W db, Q a L W db → Q' a L W db)
    (p : Prog Stmt Val Err ε α) (h : G.wp now p Q L W db) : G.wp now p Q' L W db := by
  induction p generalizing L W db with
  | pure a => exact hQ a L W db h
  | throw e => trivial
  | exec s k ih =>
    intro db' hR o v ws he
    exact ih _ (h db' hR o v ws he)

end Rules

variable (G now) in
/-- A statement of `ok` that succeeds takes `P` to `Q`. -/
def Takes (ok : Stmt → Prop) (P Q : List Lock → List Write → DB → Prop) : Prop :=
  ∀ {s L W db db' o v ws}, ok s → P L W db → G.Rely L db db' →
    D.eval s o now (D.view db' W) = .ok (v, ws) →
      Q (L ++ D.locks s o now (D.view db' W)) (W ++ ws) db'

/-- What every statement of a program keeps. -/
theorem wp_only {ok : Stmt → Prop} {P : List Lock → List Write → DB → Prop} (hP : G.Takes now ok P P)
    {p : Prog Stmt Val Err ε α} (hp : p.Only ok) {L : List Lock} {W : List Write} {db : DB}
    (h : P L W db) : G.wp now p (fun _ => P) L W db := by
  induction hp generalizing L W db with
  | pure a => exact h
  | throw e => trivial
  | exec hs _ ih =>
    intro db' hR o v ws he
    exact ih _ (hP hs h hR he)

/-- **A program that looks once** ends before the look or after it. -/
theorem wp_once {blind look : Stmt → Prop} {P Q : List Lock → List Write → DB → Prop}
    (hP : G.Takes now blind P P) (hlook : G.Takes now look P Q) (hQ : G.Takes now blind Q Q)
    {p : Prog Stmt Val Err ε α} (hp : p.Once blind look) {L : List Lock} {W : List Write} {db : DB}
    (h : P L W db) : G.wp now p (fun _ L W db => P L W db ∨ Q L W db) L W db := by
  induction hp generalizing L W db with
  | pure a => exact Or.inl h
  | throw e => trivial
  | skip hs _ ih =>
    intro db' hR o v ws he
    exact ih _ (hP hs h hR he)
  | look hs hk =>
    intro db' hR o v ws he
    exact wp_mono (fun _ _ _ _ => Or.inr) _ (wp_only hQ (hk _) (hlook hs h hR he))

/-! ### The system refines the serial one -/

variable (G)
variable {program : Req → Prog Stmt Val Err ε α}

/-- Every program commits the operation its request stands for. -/
def Verified (program : Req → Prog Stmt Val Err ε α) : Prop :=
  ∀ r now db, G.wp now (program r) (G.commits r) [] [] db

/-- A state in which every live transaction is on course to commit its operation and no two of
them hold conflicting locks. -/
structure Sound (s : State DB Write Lock Err Stmt Val Req ε α) : Prop where
  safe : ∀ i t, s.txs i = some t → t.failed = false →
    G.wp t.now t.prog (G.commits t.req) t.locks t.writes s.db
  apart : ∀ i j t u, i ≠ j → s.txs i = some t → s.txs j = some u → D.Compatible t.locks u.locks

variable {G}

theorem sound_quiet (db : DB) :
    G.Sound (State.quiet db : State DB Write Lock Err Stmt Val Req ε α) := by
  constructor
  · intro i t ht
    cases ht
  · intro i j t u _ ht
    cases ht

/-- Changing one transaction while the committed rows stay: the new one must be on course and
its locks free. -/
theorem Sound.update {s : State DB Write Lock Err Stmt Val Req ε α} (hs : G.Sound s) (i : ℕ)
    (t : Txn Write Lock Err Stmt Val Req ε α)
    (hsafe : t.failed = false → G.wp t.now t.prog (G.commits t.req) t.locks t.writes s.db)
    (hfree : s.Free D i t.locks) :
    G.Sound { s with txs := Function.update s.txs i (some t) } := by
  constructor
  · intro j u hu
    rcases live_update hu with ⟨rfl, rfl⟩ | ⟨-, hu⟩
    · exact hsafe
    · exact hs.safe j u hu
  · intro j j' u u' hne hu hu'
    rcases live_update hu with ⟨rfl, rfl⟩ | ⟨hj, hlive⟩
    · rcases live_update hu' with ⟨rfl, -⟩ | ⟨-, hlive'⟩
      · exact absurd rfl hne
      · exact hfree j' u' hne.symm hlive'
    · rcases live_update hu' with ⟨rfl, rfl⟩ | ⟨-, hlive'⟩
      · exact (hfree j u hj hlive).symm
      · exact hs.apart j j' u u' hne hlive hlive'

/-- Ending a transaction and moving the committed rows by what the others rely on. -/
theorem Sound.finish {s : State DB Write Lock Err Stmt Val Req ε α} (hs : G.Sound s) (i : ℕ)
    (db' : DB) (hR : ∀ j u, j ≠ i → s.txs j = some u → G.Rely u.locks s.db db') :
    G.Sound ⟨db', Function.update s.txs i none⟩ := by
  constructor
  · intro j u hu hf
    obtain ⟨hj, hu⟩ := live_end hu
    exact wp_rely (commits_stable u.req) (hs.safe j u hu hf) (hR j u hj hu)
  · intro j j' u u' hne hu hu'
    exact hs.apart j j' u u' hne (live_end hu).2 (live_end hu').2

theorem Sound.free {s : State DB Write Lock Err Stmt Val Req ε α} (hs : G.Sound s) {i : ℕ}
    {t : Txn Write Lock Err Stmt Val Req ε α} (ht : s.txs i = some t) : s.Free D i t.locks := by
  intro j u hj hu
  exact hs.apart i j t u hj.symm ht hu

/-- **What a commit does.**  From a sound state a committing step is its request's operation. -/
theorem Sound.commit_op {s s' : State DB Write Lock Err Stmt Val Req ε α} (hs : G.Sound s) {r : Req}
    (h : Step D program s (some r) s') : ∃ L, G.Op r L s.db s'.db := by
  cases h with
  | commit i live done fine =>
    have hw := hs.safe i _ live fine
    rw [done] at hw
    exact ⟨_, hw s.db (G.refl _ _)⟩

/-- One step keeps a state sound. -/
theorem Sound.step (hv : G.Verified program) {s s' : State DB Write Lock Err Stmt Val Req ε α}
    (hs : G.Sound s) {lab : Option Req} (h : Step D program s lab s') : G.Sound s' := by
  cases h with
  | start i r now free =>
    refine hs.update i _ (fun _ => hv r now s.db) ?_
    intro j u _ _ l hl
    cases hl
  | @exec i t st k o live next fine free =>
    have hw := hs.safe i t live fine
    rw [next] at hw
    refine hs.update i _ ?_ ?_
    · intro hf
      cases he : D.eval st o t.now (D.view s.db t.writes) with
      | ok res =>
        obtain ⟨v, ws⟩ := res
        simp only [Txn.run, he]
        exact hw s.db (G.refl _ _) o v ws he
      | error e =>
        simp [Txn.run, he] at hf
    · have hL : (t.run D s.db st k o).locks
          = t.locks ++ D.locks st o t.now (D.view s.db t.writes) := by
        simp only [Txn.run]
        cases D.eval st o t.now (D.view s.db t.writes) <;> rfl
      intro j u hj hu
      rw [hL]
      exact (hs.free live j u hj hu).append_left (free j u hj hu)
  | @refused i t st k live next bad =>
    refine hs.update i _ (fun hf => ?_) (hs.free (t := t) live)
    exact absurd (bad.symm.trans hf) (by simp)
  | @commit i t a live done fine =>
    have hw := hs.safe i t live fine
    rw [done] at hw
    refine hs.finish i _ (fun j u hj hu => ?_)
    exact G.guarantee (hw s.db (G.refl _ _)) (hs.apart i j t u hj.symm live hu)
  | abort i live =>
    exact hs.finish i _ (fun j u _ _ => G.refl _ _)

/-- **Runs keep states sound.** -/
theorem Sound.run (hv : G.Verified program) {ok : DB → Req → Prop}
    {s₀ s : State DB Write Lock Err Stmt Val Req ε α} (hs : G.Sound s₀)
    (h : Run D program ok s₀ s) : G.Sound s := by
  induction h with
  | refl => exact hs
  | step _ h _ ih => exact ih.step hv h

/-! ### One transaction at a time -/

variable (G program) in
/-- A condition on one transaction that its own statements and the commits of others keep. -/
structure Steady where
  Holds : Txn Write Lock Err Stmt Val Req ε α → DB → Prop
  start : ∀ r now db, Holds (Txn.start program r now) db
  exec : ∀ {t : Txn Write Lock Err Stmt Val Req ε α} {db st k o v ws}, Holds t db →
    t.prog = .exec st k → t.failed = false → D.eval st o t.now (D.view db t.writes) = .ok (v, ws) →
      Holds { t with prog := k (.ok v), writes := t.writes ++ ws,
                     locks := t.locks ++ D.locks st o t.now (D.view db t.writes) } db
  rely : ∀ {t db db'}, Holds t db → G.Rely t.locks db db' → Holds t db'

variable (I : Steady G program)

variable {I} in
theorem Sound.steady_step {s s' : State DB Write Lock Err Stmt Val Req ε α} (hs : G.Sound s)
    (hI : ∀ i t, s.txs i = some t → t.failed = false → I.Holds t s.db) {lab : Option Req}
    (h : Step D program s lab s') :
    ∀ i t, s'.txs i = some t → t.failed = false → I.Holds t s'.db := by
  -- a transaction other than `i` is where it was
  cases h with
  | start i r now free =>
    intro j u hu hf
    rcases live_update hu with ⟨rfl, rfl⟩ | ⟨-, hu⟩
    · exact I.start r now s.db
    · exact hI j u hu hf
  | @exec i t st k o live next fine free =>
    intro j u hu hf
    rcases live_update hu with ⟨rfl, rfl⟩ | ⟨-, hu⟩
    · cases he : D.eval st o t.now (D.view s.db t.writes) with
      | error e =>
        rw [Txn.run, he] at hf
        cases hf
      | ok res =>
        rw [Txn.run, he]
        exact I.exec (hI j t live fine) next fine he
    · exact hI j u hu hf
  | @refused i t st k live next bad =>
    intro j u hu hf
    rcases live_update hu with ⟨rfl, rfl⟩ | ⟨-, hu⟩
    · rw [bad] at hf
      cases hf
    · exact hI j u hu hf
  | @commit i t a live done fine =>
    intro j u hu hf
    obtain ⟨hj, hu⟩ := live_end hu
    have hw := hs.safe i t live fine
    rw [done] at hw
    exact I.rely (hI j u hu hf)
      (G.guarantee (hw s.db (G.refl _ _)) (hs.apart i j t u (Ne.symm hj) live hu))
  | abort i live =>
    intro j u hu hf
    exact hI j u (live_end hu).2 hf

/-- **Runs keep such a condition** of every live transaction. -/
theorem Sound.steady (hv : G.Verified program) {ok : DB → Req → Prop} {db₀ : DB}
    {s : State DB Write Lock Err Stmt Val Req ε α} (h : Reachable D program ok db₀ s) :
    ∀ i t, s.txs i = some t → t.failed = false → I.Holds t s.db := by
  induction h with
  | refl =>
    intro i t ht
    cases ht
  | step hrun hstep _ ih => exact ((sound_quiet db₀).run hv hrun).steady_step ih hstep

/-- A stable condition that every program ends in. -/
def Steady.ends (Q : Req → Post Lock Write DB α) (hQ : ∀ r, G.Stable (Q r))
    (hp : ∀ r now db, G.wp now (program r) (Q r) [] [] db) : Steady G program where
  Holds t db := G.wp t.now t.prog (Q t.req) t.locks t.writes db
  start := hp
  exec h next _ he := by
    rw [next] at h
    exact h _ (G.refl _ _) _ _ _ he
  rely h hR := wp_rely (hQ _) h hR

variable (G) in
/-- The serial system: atomic operations one after the other. -/
inductive Serial (ok : DB → Req → Prop) (db₀ : DB) : DB → Prop where
  | init : Serial ok db₀ db₀
  | op {db db' r L} (hs : Serial ok db₀ db) (hok : ok db r) (h : G.Op r L db db') : Serial ok db₀ db'

/-- **Refinement.**  The committed rows of every state of a run are reached from the first ones
by atomic operations one after the other. -/
theorem Sound.serial (hv : G.Verified program) {ok : DB → Req → Prop}
    {s₀ s : State DB Write Lock Err Stmt Val Req ε α} (hs₀ : G.Sound s₀)
    (h : Run D program ok s₀ s) : G.Serial ok s₀.db s.db := by
  induction h with
  | refl => exact Serial.init
  | @step s s' lab hs h hok ih =>
    cases lab with
    | none =>
      rw [h.db_eq]
      exact ih
    | some r =>
      obtain ⟨L, hop⟩ := (hs₀.run hv hs).commit_op h
      exact Serial.op ih (hok r rfl) hop

/-- **Invariants of the operations are invariants of the serial system.** -/
theorem Serial.invariant {ok : DB → Req → Prop} {db₀ db : DB} {P : DB → Prop}
    (h : G.Serial ok db₀ db) (h₀ : P db₀)
    (hop : ∀ {r L db db'}, P db → ok db r → G.Op r L db db' → P db') : P db := by
  induction h with
  | init => exact h₀
  | op _ hok h ih => exact hop ih hok h

end RelyGuarantee

end ReadCommitted

import Sahel.Library.Autocommit
import Mathlib.Data.List.Forall2

/-!
# Two runs in lock step

One schedule played on two databases.  When every statement does the same to both runs, as far as a
relation between their rows, their writes and their programs says, the two runs go the same way: a
move that one can make the other can make, and every call ends alike.

* `advance` is one statement of a program;
* `Lockstep` is such a relation and `Lockstep.Same` what it says of two states;
* **`Lockstep.Same.plays`**: related states stay related along any schedule;
* **`Lockstep.inTurn`**: so do related rows under calls one after the other, which all answer alike.
-/

set_option autoImplicit false

namespace Autocommit

open ReadCommitted

variable {DB Write Lock Err Oracle Stmt Req ε α : Type} {Val : Stmt → Type}

/-- How a program ended, once it has. -/
def outcome : Prog Stmt Val Err ε α → Option (Except ε α)
  | .pure a => some (.ok a)
  | .throw e => some (.error e)
  | .exec _ _ => none

/-- What the next statement leaves of a program, and its writes unless it fails. -/
def advance (D : Database DB Write Lock Err Oracle Stmt Val) (o : Oracle) (now : ℤ) (db : DB) :
    Prog Stmt Val Err ε α → Option (Prog Stmt Val Err ε α × Option (List Write))
  | .exec st k =>
    match D.eval st o now db with
    | .ok (v, ws) => some (k (.ok v), some ws)
    | .error e => some (k (.error e), none)
  | _ => none

/-- One call with nobody else about: how it ends, the number of statements so far and the rows.  The
statements take their oracles and instants by number. -/
def callAlone (D : Database DB Write Lock Err Oracle Stmt Val) (os : ℕ → Oracle × ℤ) :
    Prog Stmt Val Err ε α → ℕ → DB → Except ε α × ℕ × DB
  | .pure a, n, db => (.ok a, n, db)
  | .throw e, n, db => (.error e, n, db)
  | .exec st k, n, db =>
    match D.eval st (os n).1 (os n).2 db with
    | .ok (v, ws) => callAlone D os (k (.ok v)) (n + 1) (D.view db ws)
    | .error e => callAlone D os (k (.error e)) (n + 1) db

/-- Calls one after the other: how each ends, and the rows in the end. -/
def inTurn (D : Database DB Write Lock Err Oracle Stmt Val) (program : Req → Prog Stmt Val Err ε α)
    (os : ℕ → Oracle × ℤ) : List Req → ℕ → DB → List (Except ε α) × DB
  | [], _, db => ([], db)
  | r :: rs, n, db =>
    let first := callAlone D os (program r) n db
    let rest := inTurn D program os rs first.2.1 first.2.2
    (first.1 :: rest.1, rest.2)

/-- What is kept between two runs: a relation of their rows, of the writes a call has not committed,
and of the programs of a call. -/
structure Lockstep (D : Database DB Write Lock Err Oracle Stmt Val) (Req ε α : Type) where
  rows : DB → DB → Prop
  writes : List Write → List Write → Prop
  alike : Req → Prog Stmt Val Err ε α → Prog Stmt Val Err ε α → Prop
  nil : writes [] []
  isEmpty : ∀ {W W'}, writes W W' → W.isEmpty = W'.isEmpty
  view : ∀ {d d' W W'}, rows d d' → writes W W' → rows (D.view d W) (D.view d' W')
  outcome : ∀ {r p p'}, alike r p p' → outcome p = outcome p'
  advance : ∀ {d d' r p p'}, rows d d' → alike r p p' → ∀ o now,
    Option.Rel (fun x x' => alike r x.1 x'.1 ∧ Option.Rel writes x.2 x'.2) (advance D o now d p)
      (advance D o now d' p')

namespace Lockstep

variable {D : Database DB Write Lock Err Oracle Stmt Val} (L : Lockstep D Req ε α)

/-- Two calls that have come equally far. -/
structure Pair (c c' : Call Write Err Stmt Val Req ε α) : Prop where
  req : c.req = c'.req
  prog : L.alike c.req c.prog c'.prog
  pending : L.writes c.pending c'.pending

/-- Two states that have come equally far. -/
structure Same (s s' : State DB Write Err Stmt Val Req ε α) : Prop where
  clock : s.clock = s'.clock
  rows : L.rows s.db s'.db
  calls : List.Forall₂ L.Pair s.calls s'.calls

variable {L}

/-- **Every call ends alike.** -/
theorem Same.outcomes {s s' : State DB Write Err Stmt Val Req ε α} (h : L.Same s s') :
    s.calls.map (fun c => Autocommit.outcome c.prog)
      = s'.calls.map (fun c => Autocommit.outcome c.prog) := by
  have hcalls := h.calls
  generalize s.calls = l at hcalls ⊢
  generalize s'.calls = l' at hcalls ⊢
  induction hcalls with
  | nil => rfl
  | cons hp _ ih => rw [List.map_cons, List.map_cons, ih, L.outcome hp.prog]

/-- The calls with one number. -/
theorem Same.call {s s' : State DB Write Err Stmt Val Req ε α} (h : L.Same s s') (i : ℕ) :
    (s.calls[i]? = none ∧ s'.calls[i]? = none) ∨
      ∃ c c', s.calls[i]? = some c ∧ s'.calls[i]? = some c' ∧ L.Pair c c' := by
  have hcalls := h.calls
  generalize s.calls = l at hcalls ⊢
  generalize s'.calls = l' at hcalls ⊢
  induction hcalls generalizing i with
  | nil => exact Or.inl ⟨rfl, rfl⟩
  | cons hp _ ih =>
    cases i with
    | zero => exact Or.inr ⟨_, _, rfl, rfl, hp⟩
    | succ i => exact ih i

theorem Same.replace {s s' : State DB Write Err Stmt Val Req ε α} (h : L.Same s s') (i : ℕ)
    {c c' : Call Write Err Stmt Val Req ε α} (hc : L.Pair c c') :
    List.Forall₂ L.Pair (replace s.calls i c) (Autocommit.replace s'.calls i c') :=
  List.rel_append (List.forall₂_take i h.calls) (.cons hc (List.forall₂_drop (i + 1) h.calls))

section Play

variable {program : Req → Prog Stmt Val Err ε α} {s s' : State DB Write Err Stmt Val Req ε α}

variable (program) in
/-- One statement of a call. -/
theorem play_exec (D : Database DB Write Lock Err Oracle Stmt Val) (i : ℕ) (o : Oracle)
    (s : State DB Write Err Stmt Val Req ε α) {c : Call Write Err Stmt Val Req ε α}
    (hc : s.calls[i]? = some c) :
    ((c.pending.isEmpty = false ∨
        ∀ p ws, Autocommit.advance D o s.clock s.db c.prog ≠ some (p, some ws)) ∧
      play D program (fun _ _ => true) s (.exec i o) = none) ∨
    ∃ p ws log, c.pending.isEmpty = true ∧
      Autocommit.advance D o s.clock s.db c.prog = some (p, some ws) ∧
      play D program (fun _ _ => true) s (.exec i o)
        = some { s with calls := Autocommit.replace s.calls i ⟨c.req, p, ws, log⟩ } := by
  obtain ⟨r, p, W, log⟩ := c
  cases p with
  | pure a => exact Or.inl ⟨Or.inr (fun _ _ h => by cases h), by simp only [play, hc]⟩
  | throw e => exact Or.inl ⟨Or.inr (fun _ _ h => by cases h), by simp only [play, hc]⟩
  | exec st k =>
    cases he : D.eval st o s.clock s.db with
    | error e =>
      refine Or.inl ⟨Or.inr (fun p ws h => ?_), by simp only [play, hc, he]⟩
      simp [Autocommit.advance, he] at h
    | ok res =>
      cases hW : W.isEmpty with
      | false => exact Or.inl ⟨Or.inl rfl, by simp [play, hc, he, hW]⟩
      | true =>
        refine Or.inr ⟨k (.ok res.1), res.2, log ++ [⟨st, s.clock, .ok res.1⟩], rfl,
          by simp only [Autocommit.advance, he], ?_⟩
        simp only [play, hc, he, hW, and_self, if_true, Call.answered]

/-- A statement succeeds in both runs, or in neither. -/
theorem advance_cases {d d' : DB} {r : Req} {p p' : Prog Stmt Val Err ε α} (hd : L.rows d d')
    (hp : L.alike r p p') (o : Oracle) (now : ℤ) :
    (∃ q ws q' ws', Autocommit.advance D o now d p = some (q, some ws) ∧
      Autocommit.advance D o now d' p' = some (q', some ws') ∧ L.alike r q q' ∧ L.writes ws ws') ∨
    ((∀ q ws, Autocommit.advance D o now d p ≠ some (q, some ws)) ∧
      ∀ q ws, Autocommit.advance D o now d' p' ≠ some (q, some ws)) := by
  have hadv := L.advance hd hp o now
  generalize Autocommit.advance D o now d p = x at hadv ⊢
  generalize Autocommit.advance D o now d' p' = x' at hadv ⊢
  cases hadv with
  | none => exact Or.inr ⟨by simp, by simp⟩
  | @some y y' hx =>
    obtain ⟨q, W⟩ := y
    obtain ⟨q', W'⟩ := y'
    obtain ⟨hq, hws⟩ := hx
    cases hws with
    | none => exact Or.inr ⟨by simp, by simp⟩
    | some hws => exact Or.inl ⟨q, _, q', _, rfl, rfl, hq, hws⟩

/-- **A move that one run can make, the other can make.** -/
theorem Same.play (h : L.Same s s') (m : Move Req Oracle)
    (hm : ∀ r, m = .arrive r → L.alike r (program r) (program r)) :
    Option.Rel L.Same (Autocommit.play D program (fun _ _ => true) s m)
      (Autocommit.play D program (fun _ _ => true) s' m) := by
  cases m with
  | tick now =>
    simp only [Autocommit.play, ← h.clock]
    by_cases hle : s.clock ≤ now
    · simp only [if_pos hle]
      exact .some ⟨rfl, h.rows, h.calls⟩
    · simp only [if_neg hle]
      exact .none
  | arrive r =>
    refine .some ⟨h.clock, h.rows, List.rel_append h.calls (.cons ?_ .nil)⟩
    exact ⟨rfl, hm r rfl, L.nil⟩
  | exec i o =>
    rcases h.call i with ⟨hc, hc'⟩ | ⟨c, c', hc, hc', hp⟩
    · simp only [Autocommit.play, hc, hc']
      exact .none
    · have hempty := L.isEmpty hp.pending
      have hadv := advance_cases h.rows hp.prog o s.clock
      have hplay := play_exec program D i o s hc
      have hplay' := play_exec program D i o s' hc'
      rw [← hempty, ← h.clock] at hplay'
      rcases hplay with ⟨hno, hplay⟩ | ⟨q, ws, log, hW, hx, hplay⟩
      · rcases hplay' with ⟨-, hplay'⟩ | ⟨q', ws', log', hW, hx', -⟩
        · rw [hplay, hplay']
          exact .none
        · rcases hadv with ⟨q, ws, q₁, ws₁, hx, -⟩ | ⟨-, hnone⟩
          · rcases hno with hno | hno
            · rw [hW] at hno
              cases hno
            · exact absurd hx (hno q ws)
          · exact absurd hx' (hnone q' ws')
      · rcases hadv with ⟨q₁, ws₁, q', ws', hx₁, hx', hq, hws⟩ | ⟨hnone, -⟩
        · rcases hplay' with ⟨hno, -⟩ | ⟨q₂, ws₂, log', -, hx₂, hplay'⟩
          · rcases hno with hno | hno
            · rw [hW] at hno
              cases hno
            · exact absurd hx' (hno q' ws')
          · rw [hx] at hx₁
            rw [hx'] at hx₂
            cases hx₁
            cases hx₂
            rw [hplay, hplay']
            exact .some ⟨rfl, h.rows, h.replace i ⟨hp.req, hq, hws⟩⟩
        · exact absurd hx (hnone q ws)
  | commit i =>
    rcases h.call i with ⟨hc, hc'⟩ | ⟨c, c', hc, hc', hp⟩
    · simp only [Autocommit.play, hc, hc']
      exact .none
    · simp only [Autocommit.play, hc, hc']
      exact .some ⟨h.clock, L.view h.rows hp.pending, h.replace i ⟨hp.req, hp.prog, L.nil⟩⟩

/-- **A schedule goes the same way in both runs.** -/
theorem Same.plays {ms : List (Move Req Oracle)} (h : L.Same s s')
    (hm : ∀ r, .arrive r ∈ ms → L.alike r (program r) (program r)) :
    Option.Rel L.Same (Autocommit.plays D program (fun _ _ => true) ms s)
      (Autocommit.plays D program (fun _ _ => true) ms s') := by
  induction ms generalizing s s' with
  | nil => exact .some h
  | cons m ms ih =>
    have hplay := h.play m (fun r hr => hm r (by rw [hr]; exact List.mem_cons_self))
    rw [Autocommit.plays, Autocommit.plays]
    generalize Autocommit.play D program (fun _ _ => true) s m = x at hplay ⊢
    generalize Autocommit.play D program (fun _ _ => true) s' m = x' at hplay ⊢
    cases hplay with
    | none => exact .none
    | some hnext => exact ih hnext (fun r hr => hm r (List.mem_cons_of_mem _ hr))

end Play

/-! ### Calls one after the other -/

/-- The next statements fail in both runs, or in neither. -/
theorem eval_cases {d d' : DB} {r : Req} {st st' : Stmt}
    {k : Except Err (Val st) → Prog Stmt Val Err ε α} {k' : Except Err (Val st') → Prog Stmt Val Err ε α}
    (hd : L.rows d d') (hp : L.alike r (.exec st k) (.exec st' k')) (o : Oracle) (now : ℤ) :
    (∃ e e', D.eval st o now d = .error e ∧ D.eval st' o now d' = .error e' ∧
      L.alike r (k (.error e)) (k' (.error e'))) ∨
    ∃ res res', D.eval st o now d = .ok res ∧ D.eval st' o now d' = .ok res' ∧
      L.alike r (k (.ok res.1)) (k' (.ok res'.1)) ∧ L.writes res.2 res'.2 := by
  have hadv := L.advance hd hp o now
  rw [Autocommit.advance, Autocommit.advance] at hadv
  cases he : D.eval st o now d with
  | error e =>
    rw [he] at hadv
    cases he' : D.eval st' o now d' with
    | error e' =>
      rw [he'] at hadv
      cases hadv with
      | some hx => exact Or.inl ⟨e, e', rfl, rfl, hx.1⟩
    | ok res' =>
      rw [he'] at hadv
      cases hadv with
      | some hx => cases hx.2
  | ok res =>
    rw [he] at hadv
    cases he' : D.eval st' o now d' with
    | error e' =>
      rw [he'] at hadv
      cases hadv with
      | some hx => cases hx.2
    | ok res' =>
      rw [he'] at hadv
      cases hadv with
      | some hx =>
        cases hx.2 with
        | some hws => exact Or.inr ⟨res, res', rfl, rfl, hx.1, hws⟩

/-- **One call answers alike.** -/
theorem callAlone (os : ℕ → Oracle × ℤ) {r : Req} {p p' : Prog Stmt Val Err ε α} {d d' : DB} (n : ℕ)
    (hp : L.alike r p p') (hd : L.rows d d') :
    (Autocommit.callAlone D os p n d).1 = (Autocommit.callAlone D os p' n d').1 ∧
      (Autocommit.callAlone D os p n d).2.1 = (Autocommit.callAlone D os p' n d').2.1 ∧
      L.rows (Autocommit.callAlone D os p n d).2.2 (Autocommit.callAlone D os p' n d').2.2 := by
  induction p generalizing p' d d' n with
  | pure a =>
    have hout := L.outcome hp
    cases p' with
    | pure b =>
      cases hout
      exact ⟨rfl, rfl, hd⟩
    | throw e => cases hout
    | exec st k => cases hout
  | throw e =>
    have hout := L.outcome hp
    cases p' with
    | pure b => cases hout
    | throw e' =>
      cases hout
      exact ⟨rfl, rfl, hd⟩
    | exec st k => cases hout
  | exec st k ih =>
    cases p' with
    | pure b => exact absurd (L.outcome hp) (by simp [Autocommit.outcome])
    | throw e' => exact absurd (L.outcome hp) (by simp [Autocommit.outcome])
    | exec st' k' =>
      rw [Autocommit.callAlone, Autocommit.callAlone]
      rcases eval_cases hd hp (os n).1 (os n).2 with ⟨e, e', he, he', hk⟩ | ⟨res, res', he, he', hk, hws⟩
      · rw [he, he']
        exact ih _ (n + 1) hk hd
      · rw [he, he']
        exact ih _ (n + 1) hk (L.view hd hws)

/-- **A sequence of calls answers alike.** -/
theorem inTurn (os : ℕ → Oracle × ℤ) {program : Req → Prog Stmt Val Err ε α} {rs : List Req} (n : ℕ)
    {d d' : DB} (hd : L.rows d d') (hr : ∀ r ∈ rs, L.alike r (program r) (program r)) :
    (Autocommit.inTurn D program os rs n d).1 = (Autocommit.inTurn D program os rs n d').1 ∧
      L.rows (Autocommit.inTurn D program os rs n d).2 (Autocommit.inTurn D program os rs n d').2 := by
  induction rs generalizing n d d' with
  | nil => exact ⟨rfl, hd⟩
  | cons r rs ih =>
    obtain ⟨hfirst, hnext, hrows⟩ := callAlone os n (hr r List.mem_cons_self) hd
    obtain ⟨hrest, hend⟩ := ih (Autocommit.callAlone D os (program r) n d).2.1 hrows
      (fun r' hr' => hr r' (List.mem_cons_of_mem _ hr'))
    rw [Autocommit.inTurn, Autocommit.inTurn, ← hnext]
    exact ⟨congrArg₂ List.cons hfirst hrest, hend⟩

end Lockstep

end Autocommit

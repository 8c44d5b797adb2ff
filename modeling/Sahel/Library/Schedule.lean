import Sahel.Library.History
import Mathlib.Tactic.SplitIfs

/-!
# Schedules

A run of the interleaved system, written down: who starts, who runs its next statement and who
commits, in order.  `plays` plays a schedule of transactions numbered below `n`, and refuses a move
that is not a step: a lock that is taken, a program that has ended, a transaction that has failed.

* **`LRun.plays`**: what is played is a run of the system, with its histories.
-/

set_option autoImplicit false

namespace ReadCommitted

variable {DB Write Lock Err Oracle Stmt Req ε α : Type} {Val : Stmt → Type}

/-- A move of a schedule. -/
inductive Move (Req Oracle : Type) where
  | start (i : ℕ) (r : Req) (now : ℤ)
  | exec (i : ℕ) (o : Oracle)
  | commit (i : ℕ)

/-- Nobody from `n` on is connected. -/
def Logged.Below (l : Logged DB Write Lock Err Oracle Stmt Val Req ε α) (n : ℕ) : Prop :=
  ∀ j, n ≤ j → l.state.txs j = none

section System

variable (D : Database DB Write Lock Err Oracle Stmt Val)
variable (program : Req → Prog Stmt Val Err ε α)

/-- The locks are free for transaction `i`, among those below `n`. -/
def freeBelow (n : ℕ) (l : Logged DB Write Lock Err Oracle Stmt Val Req ε α) (i : ℕ) (L : List Lock) :
    Bool :=
  (List.range n).all (fun j => decide (j = i) || match l.state.txs j with
    | none => true
    | some u => L.all (fun x => u.locks.all (fun y => ! D.conflict x y)))

/-- One move: the label of its step and the state after it. -/
def play (n : ℕ) (l : Logged DB Write Lock Err Oracle Stmt Val Req ε α) :
    Move Req Oracle → Option (Option (ℕ × Req) × Logged DB Write Lock Err Oracle Stmt Val Req ε α)
  | .start i r now =>
    if i < n ∧ (l.state.txs i).isNone then
      some (none, ⟨⟨l.state.db, Function.update l.state.txs i (some (Txn.start program r now))⟩,
        Function.update l.log i []⟩)
    else none
  | .exec i o =>
    match l.state.txs i with
    | none => none
    | some t =>
      match t.prog with
      | .exec st k =>
        if i < n ∧ t.failed = false ∧
            freeBelow D n l i (D.locks st o t.now (D.view l.state.db t.writes)) = true then
          some (none,
            ⟨⟨l.state.db, Function.update l.state.txs i (some (t.run D l.state.db st k o))⟩,
              Function.update l.log i (l.log i ++ [⟨st, o, l.state.db⟩])⟩)
        else none
      | _ => none
  | .commit i =>
    match l.state.txs i with
    | none => none
    | some t =>
      match t.prog with
      | .pure _ =>
        if t.failed = false then
          some (some (i, t.req),
            ⟨⟨D.view l.state.db t.writes, Function.update l.state.txs i none⟩, l.log⟩)
        else none
      | _ => none

variable {D program} {n : ℕ} {l l' : Logged DB Write Lock Err Oracle Stmt Val Req ε α}

theorem free_of_freeBelow (hn : l.Below n) {i : ℕ} {L : List Lock}
    (h : freeBelow D n l i L = true) : l.state.Free D i L := by
  intro j u hj hu
  by_cases hlt : j < n
  · have hone := List.all_eq_true.mp h j (List.mem_range.mpr hlt)
    rw [hu, decide_eq_false hj, Bool.false_or] at hone
    intro x hx y hy
    have hxy := List.all_eq_true.mp (List.all_eq_true.mp hone x hx) y hy
    simpa using hxy
  · rw [hn j (Nat.le_of_not_lt hlt)] at hu
    cases hu

theorem Logged.Below.update (hn : l.Below n) {i : ℕ} (hi : i < n)
    (t : Option (Txn Write Lock Err Stmt Val Req ε α)) (db : DB)
    (log : ℕ → List (Event DB Oracle Stmt)) :
    Logged.Below ⟨⟨db, Function.update l.state.txs i t⟩, log⟩ n := by
  intro j hj
  show Function.update l.state.txs i t j = none
  rw [Function.update_of_ne (by omega)]
  exact hn j hj

/-- **A move is a step.** -/
theorem play_step (hn : l.Below n) {m : Move Req Oracle} {lab : Option (ℕ × Req)}
    (h : play D program n l m = some (lab, l')) : LStep D program l lab l' ∧ l'.Below n := by
  have hlive : ∀ i t, l.state.txs i = some t → i < n := by
    intro i t ht
    by_contra hge
    rw [hn i (Nat.le_of_not_lt hge)] at ht
    cases ht
  cases m with
  | start i r now =>
    simp only [play] at h
    split_ifs at h with hc
    cases h
    exact ⟨.start i r now (Option.isNone_iff_eq_none.mp hc.2), hn.update hc.1 _ _ _⟩
  | exec i o =>
    simp only [play] at h
    split at h
    · cases h
    · rename_i t ht
      split at h
      · rename_i st k hp
        split_ifs at h with hc
        cases h
        exact ⟨.exec i o ht hp hc.2.1 (free_of_freeBelow hn hc.2.2), hn.update hc.1 _ _ _⟩
      · cases h
  | commit i =>
    simp only [play] at h
    split at h
    · cases h
    · rename_i t ht
      split at h
      · rename_i a hp
        split_ifs at h with hc
        cases h
        exact ⟨.commit i ht hp hc, hn.update (hlive i t ht) _ _ _⟩
      · cases h

variable (D program)

/-- Moves one after the other, with the requests committed; `check` may refuse a commit. -/
def plays (check : Logged DB Write Lock Err Oracle Stmt Val Req ε α → ℕ → Bool) (n : ℕ) :
    List (Move Req Oracle) → Logged DB Write Lock Err Oracle Stmt Val Req ε α → List Req →
    Option (List Req × Logged DB Write Lock Err Oracle Stmt Val Req ε α)
  | [], l, rs => some (rs, l)
  | m :: ms, l, rs =>
    match play D program n l m with
    | none => none
    | some (none, l') => plays check n ms l' rs
    | some (some (i, r), l') => if check l i then plays check n ms l' (rs ++ [r]) else none

variable {D program}
variable {ok : Logged DB Write Lock Err Oracle Stmt Val Req ε α → ℕ → Req → Prop}
variable {check : Logged DB Write Lock Err Oracle Stmt Val Req ε α → ℕ → Bool}
variable {l₀ : Logged DB Write Lock Err Oracle Stmt Val Req ε α}

/-- **A schedule is a run.** -/
theorem LRun.plays (hok : ∀ l i r, l.Below n → check l i = true → ok l i r)
    {ms : List (Move Req Oracle)} {rs rs' : List Req} (hn : l.Below n)
    (h : plays D program check n ms l rs = some (rs', l')) (hs : LRun D program ok l₀ rs l) :
    LRun D program ok l₀ rs' l' ∧ l'.Below n := by
  induction ms generalizing l rs with
  | nil =>
    cases h
    exact ⟨hs, hn⟩
  | cons m ms ih =>
    simp only [ReadCommitted.plays] at h
    split at h
    · cases h
    · rename_i l₁ hplay
      obtain ⟨hstep, hn₁⟩ := play_step hn hplay
      exact ih hn₁ h (hs.quiet hstep)
    · rename_i i r l₁ hplay
      obtain ⟨hstep, hn₁⟩ := play_step hn hplay
      split_ifs at h with hc
      exact ih hn₁ h (hs.commit hstep (hok l i r hn hc))

theorem Logged.below_quiet (db : DB) (n : ℕ) :
    (Logged.quiet db : Logged DB Write Lock Err Oracle Stmt Val Req ε α).Below n := fun _ _ => rfl

variable (ok) in
/-- A schedule that plays to a state which passes a test, from a database nobody is connected to. -/
theorem LRun.of_plays (hok : ∀ l i r, l.Below n → check l i = true → ok l i r) {db : DB}
    {ms : List (Move Req Oracle)}
    {test : List Req × Logged DB Write Lock Err Oracle Stmt Val Req ε α → Bool}
    (h : (ReadCommitted.plays D program check n ms (Logged.quiet db) []).any test = true) :
    ∃ rs l, LRun D program ok (Logged.quiet db) rs l ∧ l.Below n ∧ test (rs, l) = true := by
  rw [Option.any_eq_true] at h
  obtain ⟨⟨rs, l⟩, hplays, htest⟩ := h
  obtain ⟨hrun, hbelow⟩ := LRun.plays hok (Logged.below_quiet db n) hplays .refl
  exact ⟨rs, l, hrun, hbelow, htest⟩

end System

end ReadCommitted

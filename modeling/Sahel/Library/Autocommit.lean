import Sahel.Library.ReadCommitted
import Mathlib.Data.List.Basic

/-!
# Calls whose statements are each their own transaction

A handler that opens no transaction asks its pool for one statement at a time, and each is committed
before it answers.  Any number of such calls interleave; the clock only moves forward.

* `Call` is a call: what is left of its program, the writes of a statement that has run and not been
  committed yet, and the statements it has run, each with its instant and answer;
* `Step` runs one statement on the committed rows at the present instant, makes the writes of one
  visible, lets a call arrive, lets a statement fail, or lets another party write;
* `Run` is a run, every statement of which meets a condition;
* `play` and **`Run.plays`**: a schedule that plays is a run.

Calls that have ended stay in the list: what is said of them is said of the whole run.
-/

set_option autoImplicit false

namespace Autocommit

open ReadCommitted

variable {DB Write Lock Err Oracle Stmt Req ε α : Type} {Val : Stmt → Type}

/-- A statement that has run, the instant and the answer. -/
structure Entry (Err Stmt : Type) (Val : Stmt → Type) where
  stmt : Stmt
  time : ℤ
  value : Except Err (Val stmt)

structure Call (Write Err Stmt : Type) (Val : Stmt → Type) (Req ε α : Type) where
  req : Req
  prog : Prog Stmt Val Err ε α
  pending : List Write
  log : List (Entry Err Stmt Val)

/-- The clock, the committed rows and every call so far. -/
structure State (DB Write Err Stmt : Type) (Val : Stmt → Type) (Req ε α : Type) where
  clock : ℤ
  db : DB
  calls : List (Call Write Err Stmt Val Req ε α)

/-- A call has statements to run, or one to see committed. -/
def Call.live (c : Call Write Err Stmt Val Req ε α) : Bool :=
  (match c.prog with
    | .exec _ _ => true
    | _ => false) || !c.pending.isEmpty

section System

variable (D : Database DB Write Lock Err Oracle Stmt Val)
variable (program : Req → Prog Stmt Val Err ε α)
variable (mayFail : Stmt → Prop) (foreign : Write → Prop)

/-- A call as it arrives. -/
def Call.arrived (r : Req) : Call Write Err Stmt Val Req ε α := ⟨r, program r, [], []⟩

/-- A call whose statement has answered. -/
def Call.answered (c : Call Write Err Stmt Val Req ε α) (st : Stmt)
    (k : Except Err (Val st) → Prog Stmt Val Err ε α) (now : ℤ) (v : Except Err (Val st))
    (ws : List Write) : Call Write Err Stmt Val Req ε α :=
  ⟨c.req, k v, ws, c.log ++ [⟨st, now, v⟩]⟩

/-- A call whose statement is committed. -/
def Call.settled (c : Call Write Err Stmt Val Req ε α) : Call Write Err Stmt Val Req ε α :=
  { c with pending := [] }

/-- One step; `ok` is a condition on the state and the call whose statement runs. -/
inductive Step (ok : State DB Write Err Stmt Val Req ε α → Call Write Err Stmt Val Req ε α → Prop) :
    State DB Write Err Stmt Val Req ε α → State DB Write Err Stmt Val Req ε α → Prop where
  | tick {s} (now : ℤ) (later : s.clock ≤ now) : Step ok s { s with clock := now }
  | arrive {s} (r : Req) : Step ok s { s with calls := s.calls ++ [Call.arrived program r] }
  | exec {s l₁ c l₂ st k v ws} (o : Oracle) (here : s.calls = l₁ ++ c :: l₂)
      (next : c.prog = .exec st k) (idle : c.pending = [])
      (answers : D.eval st o s.clock s.db = .ok (v, ws)) (hok : ok s c) :
      Step ok s { s with calls := l₁ ++ c.answered st k s.clock (.ok v) ws :: l₂ }
  | fail {s l₁ c l₂ st k} (o : Oracle) (e : Err) (here : s.calls = l₁ ++ c :: l₂)
      (next : c.prog = .exec st k) (idle : c.pending = [])
      (why : mayFail st ∨ D.eval st o s.clock s.db = .error e) :
      Step ok s { s with calls := l₁ ++ c.answered st k s.clock (.error e) [] :: l₂ }
  | commit {s l₁ c l₂} (here : s.calls = l₁ ++ c :: l₂) :
      Step ok s ⟨s.clock, D.view s.db c.pending, l₁ ++ c.settled :: l₂⟩
  | foreign {s} (w : Write) (other : foreign w) : Step ok s { s with db := D.apply s.db w }

/-- The states reached from `s₀`. -/
inductive Run (ok : State DB Write Err Stmt Val Req ε α → Call Write Err Stmt Val Req ε α → Prop)
    (s₀ : State DB Write Err Stmt Val Req ε α) : State DB Write Err Stmt Val Req ε α → Prop where
  | refl : Run ok s₀ s₀
  | step {s s'} (hs : Run ok s₀ s) (h : Step D program mayFail foreign ok s s') : Run ok s₀ s'

/-- Any statement will do. -/
def always (_ : State DB Write Err Stmt Val Req ε α) (_ : Call Write Err Stmt Val Req ε α) : Prop :=
  True

/-! ### Schedules -/

/-- A move of a schedule; calls are numbered as they arrive. -/
inductive Move (Req Oracle : Type) where
  | tick (now : ℤ)
  | arrive (r : Req)
  | exec (i : ℕ) (o : Oracle)
  | commit (i : ℕ)

/-- The calls with number `i` replaced. -/
def replace (l : List (Call Write Err Stmt Val Req ε α)) (i : ℕ)
    (c : Call Write Err Stmt Val Req ε α) : List (Call Write Err Stmt Val Req ε α) :=
  l.take i ++ c :: l.drop (i + 1)

/-- One move; `check` may refuse a statement. -/
def play (check : State DB Write Err Stmt Val Req ε α → Call Write Err Stmt Val Req ε α → Bool)
    (s : State DB Write Err Stmt Val Req ε α) :
    Move Req Oracle → Option (State DB Write Err Stmt Val Req ε α)
  | .tick now => if s.clock ≤ now then some { s with clock := now } else none
  | .arrive r => some { s with calls := s.calls ++ [Call.arrived program r] }
  | .exec i o =>
    match s.calls[i]? with
    | none => none
    | some c =>
      match c.prog with
      | .exec st k =>
        match D.eval st o s.clock s.db with
        | .ok (v, ws) =>
          if c.pending.isEmpty ∧ check s c = true then
            some { s with calls := replace s.calls i (c.answered st k s.clock (.ok v) ws) }
          else none
        | .error _ => none
      | _ => none
  | .commit i =>
    match s.calls[i]? with
    | none => none
    | some c => some ⟨s.clock, D.view s.db c.pending, replace s.calls i c.settled⟩

/-- Moves one after the other. -/
def plays (check : State DB Write Err Stmt Val Req ε α → Call Write Err Stmt Val Req ε α → Bool) :
    List (Move Req Oracle) → State DB Write Err Stmt Val Req ε α →
    Option (State DB Write Err Stmt Val Req ε α)
  | [], s => some s
  | m :: ms, s => (play D program check s m).bind (plays check ms)

variable {D program mayFail foreign}
variable {ok : State DB Write Err Stmt Val Req ε α → Call Write Err Stmt Val Req ε α → Prop}
variable {check : State DB Write Err Stmt Val Req ε α → Call Write Err Stmt Val Req ε α → Bool}
variable {s₀ s s' : State DB Write Err Stmt Val Req ε α}

theorem eq_around {l : List (Call Write Err Stmt Val Req ε α)} {i : ℕ}
    {c : Call Write Err Stmt Val Req ε α} (h : l[i]? = some c) :
    l = l.take i ++ c :: l.drop (i + 1) := by
  obtain ⟨hi, rfl⟩ := List.getElem?_eq_some_iff.mp h
  rw [List.getElem_cons_drop, List.take_append_drop]

/-- A move is a step. -/
theorem play_step (hok : ∀ s c, check s c = true → ok s c) {m : Move Req Oracle}
    (h : play D program check s m = some s') : Step D program mayFail foreign ok s s' := by
  cases m with
  | tick now =>
    simp only [play] at h
    split at h
    · cases h
      exact .tick now ‹_›
    · cases h
  | arrive r =>
    cases h
    exact .arrive r
  | exec i o =>
    simp only [play] at h
    split at h
    · cases h
    · rename_i c hc
      split at h
      · rename_i st k hp
        split at h
        · rename_i v ws he
          split at h
          · rename_i hcheck
            cases h
            exact .exec o (eq_around hc) hp (List.isEmpty_iff.mp hcheck.1) he (hok s c hcheck.2)
          · cases h
        · cases h
      · cases h
  | commit i =>
    simp only [play] at h
    split at h
    · cases h
    · rename_i c hc
      cases h
      exact .commit (eq_around hc)

/-- **A schedule that plays is a run.** -/
theorem Run.plays (hok : ∀ s c, check s c = true → ok s c) {ms : List (Move Req Oracle)}
    (hs : Run D program mayFail foreign ok s₀ s)
    (h : Autocommit.plays D program check ms s = some s') :
    Run D program mayFail foreign ok s₀ s' := by
  induction ms generalizing s with
  | nil =>
    cases h
    exact hs
  | cons m ms ih =>
    obtain ⟨s₁, hplay, hrest⟩ := Option.bind_eq_some_iff.mp h
    exact ih (hs.step (play_step hok hplay)) hrest

variable (mayFail foreign) in
/-- A schedule that plays to a state which passes a test. -/
theorem Run.of_plays (hok : ∀ s c, check s c = true → ok s c) {ms : List (Move Req Oracle)}
    {test : State DB Write Err Stmt Val Req ε α → Bool}
    (h : (Autocommit.plays D program check ms s₀).any test = true) :
    ∃ s, Run D program mayFail foreign ok s₀ s ∧ test s = true := by
  rw [Option.any_eq_true] at h
  obtain ⟨s, hplays, htest⟩ := h
  exact ⟨s, Run.plays hok .refl hplays, htest⟩

end System

end Autocommit

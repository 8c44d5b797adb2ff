import Mathlib.Data.Int.Notation
import Mathlib.Data.Nat.Notation
import Mathlib.Data.List.Basic
import Mathlib.Tactic.Ring
import Mathlib.Tactic.SplitIfs

/-!
# Sliding limits

A party may miss at most `N` times in any span of length `W`.  The limiter keeps the instants of
the misses it was told of and lets a try in by what it finds there; a try is judged some time after
it was let in, and its miss is put on record some time after that.

* `Attempt` is a try that was let in; one that turns out right, or is given up, is gone;
* `Step` lets a try in only while the misses on record in the last `W` and the tries in flight
  together are fewer than `N`;
* **`Limited.run`**: no span of length `W` then ever has more than `N` misses.

The misses on record alone do not bound anything: tries in flight are not on record.
-/

set_option autoImplicit false

namespace SlidingLimit

/-- A try that was let in: not judged yet; missed at an instant and not on record yet; on record. -/
inductive Attempt where
  | waiting
  | missed (c : ℤ)
  | recorded (c : ℤ)
  deriving DecidableEq

namespace Attempt

/-- The instant of the miss. -/
def miss : Attempt → Option ℤ
  | .waiting => none
  | .missed c => some c
  | .recorded c => some c

/-- Let in, and still able to add to the record. -/
def inFlight : Attempt → Bool
  | .waiting => true
  | .missed _ => true
  | .recorded _ => false

/-- Missed at `t` or later. -/
def since (t : ℤ) (a : Attempt) : Bool := a.miss.any (fun c => decide (t ≤ c))

/-- On record, missed at `t` or later. -/
def knownSince (t : ℤ) : Attempt → Bool
  | .recorded c => decide (t ≤ c)
  | _ => false

def isWaiting : Attempt → Bool
  | .waiting => true
  | _ => false

attribute [simp] inFlight knownSince isWaiting

@[simp] theorem since_waiting (t : ℤ) : since t .waiting = false := rfl

@[simp] theorem since_missed (t c : ℤ) : since t (.missed c) = decide (t ≤ c) := rfl

@[simp] theorem since_recorded (t c : ℤ) : since t (.recorded c) = decide (t ≤ c) := rfl

@[simp] theorem misses_waiting (l : List Attempt) :
    (Attempt.waiting :: l).filterMap miss = l.filterMap miss := rfl

@[simp] theorem misses_missed (c : ℤ) (l : List Attempt) :
    (Attempt.missed c :: l).filterMap miss = c :: l.filterMap miss := rfl

@[simp] theorem misses_recorded (c : ℤ) (l : List Attempt) :
    (Attempt.recorded c :: l).filterMap miss = c :: l.filterMap miss := rfl

end Attempt

/-- The clock, the misses on record and the tries. -/
structure Limiter where
  clock : ℤ
  rows : List ℤ
  attempts : List Attempt

namespace Limiter

variable (W : ℤ) (s : Limiter)

/-- The misses on record in the last `W`. -/
def recent : ℕ := s.rows.countP (fun r => decide (s.clock - W < r))

def inFlight : ℕ := s.attempts.countP Attempt.inFlight

/-- The misses at `t` or later. -/
def since (t : ℤ) : ℕ := s.attempts.countP (Attempt.since t)

/-- The misses within `W` from `t` on. -/
def within (t : ℤ) : ℕ := (s.attempts.filterMap Attempt.miss).countP
  (fun c => decide (t ≤ c ∧ c < t + W))

end Limiter

variable (N : ℕ) (W : ℤ)

/-- One step. -/
inductive Step : Limiter → Limiter → Prop where
  | tick {s : Limiter} (now : ℤ) (later : s.clock ≤ now) : Step s { s with clock := now }
  | enter {s : Limiter} {l₁ l₂ : List Attempt} (here : s.attempts = l₁ ++ l₂)
      (room : s.recent W + s.inFlight < N) :
      Step s { s with attempts := l₁ ++ .waiting :: l₂ }
  | leave {s : Limiter} {l₁ l₂ : List Attempt} (here : s.attempts = l₁ ++ .waiting :: l₂) :
      Step s { s with attempts := l₁ ++ l₂ }
  | miss {s : Limiter} {l₁ l₂ : List Attempt} (here : s.attempts = l₁ ++ .waiting :: l₂) :
      Step s { s with attempts := l₁ ++ .missed s.clock :: l₂ }
  | record {s : Limiter} {l₁ l₂ : List Attempt} {c : ℤ} (r : ℤ)
      (here : s.attempts = l₁ ++ .missed c :: l₂) (later : c ≤ r) :
      Step s ⟨s.clock, s.rows ++ [r], l₁ ++ .recorded c :: l₂⟩

/-- The states reached from `s₀`. -/
inductive Run (s₀ : Limiter) : Limiter → Prop where
  | refl : Run s₀ s₀
  | step {s s' : Limiter} (hs : Run s₀ s) (h : Step N W s s') : Run s₀ s'

/-- What holds along every run. -/
structure Limited (s : Limiter) : Prop where
  /-- every miss on record has a row, stamped no earlier -/
  known : ∀ t, s.attempts.countP (Attempt.knownSince t) ≤ s.rows.countP (fun r => decide (t ≤ r))
  /-- the misses a new one could share a span with, and the tries that may still miss -/
  room : ∀ t, s.clock < t + W → s.since t + s.attempts.countP Attempt.isWaiting ≤ N
  span : ∀ t, s.within W t ≤ N

variable {N W} {s s' s₀ : Limiter}

/-- A miss is on record or its try is still in flight. -/
theorem since_add_waiting (l : List Attempt) (t : ℤ) :
    l.countP (Attempt.since t) + l.countP Attempt.isWaiting
      ≤ l.countP (Attempt.knownSince t) + l.countP Attempt.inFlight := by
  induction l with
  | nil => exact le_refl _
  | cons a l ih =>
    cases a with
    | waiting =>
      simp [List.countP_cons]
      omega
    | missed c =>
      simp [List.countP_cons]
      split_ifs <;> omega
    | recorded c =>
      simp [List.countP_cons]
      split_ifs <;> omega

/-- The misses of a span are among those from its beginning on. -/
theorem Limiter.within_le_since (s : Limiter) (W t : ℤ) : s.within W t ≤ s.since t := by
  unfold Limiter.within Limiter.since
  rw [List.countP_filterMap]
  apply List.countP_mono_left
  intro a _ h
  cases a with
  | waiting => simp [Attempt.miss] at h
  | missed c => simp_all [Attempt.miss, Attempt.since]
  | recorded c => simp_all [Attempt.miss, Attempt.since]

theorem limited_of_no_attempts (h : s.attempts = []) : Limited N W s := by
  constructor
  · intro t
    rw [h]
    exact Nat.zero_le _
  · intro t _
    simp [Limiter.since, h]
  · intro t
    simp [Limiter.within, h]

/-- A try let in: the misses on record and in flight leave room for it in every span that is not
over. -/
theorem room_of_enter (h : Limited N W s) (room : s.recent W + s.inFlight < N) (t : ℤ)
    (ht : s.clock < t + W) : s.since t + s.attempts.countP Attempt.isWaiting < N := by
  have hsplit := since_add_waiting s.attempts t
  have hknown := h.known t
  have hrecent : s.rows.countP (fun r => decide (t ≤ r)) ≤ s.recent W := by
    apply List.countP_mono_left
    intro r _ hr
    simp only [decide_eq_true_eq] at hr ⊢
    omega
  unfold Limiter.since
  unfold Limiter.inFlight at room
  omega

/-- **One step.** -/
theorem Limited.step (h : Limited N W s) (hs : Step N W s s') : Limited N W s' := by
  cases hs with
  | tick now later =>
    exact ⟨h.known, fun t ht => h.room t (lt_of_le_of_lt later ht), h.span⟩
  | @enter l₁ l₂ here room =>
    constructor
    · intro t
      have hknown := h.known t
      simpa [here] using hknown
    · intro t ht
      have hroom := room_of_enter h room t ht
      simp [Limiter.since, here, List.countP_cons] at hroom ⊢
      omega
    · intro t
      have hspan := h.span t
      simpa [Limiter.within, here] using hspan
  | @leave l₁ l₂ here =>
    constructor
    · intro t
      have hknown := h.known t
      simpa [here] using hknown
    · intro t ht
      have hroom := h.room t ht
      simp [Limiter.since, here, List.countP_cons] at hroom ⊢
      omega
    · intro t
      have hspan := h.span t
      simpa [Limiter.within, here] using hspan
  | @miss l₁ l₂ here =>
    have hroom' : ∀ t, s.clock < t + W →
        (Limiter.since ⟨s.clock, s.rows, l₁ ++ .missed s.clock :: l₂⟩ t)
          + (l₁ ++ .missed s.clock :: l₂).countP Attempt.isWaiting ≤ N := by
      intro t ht
      have hroom := h.room t ht
      simp [Limiter.since, here, List.countP_cons] at hroom ⊢
      split_ifs <;> omega
    constructor
    · intro t
      have hknown := h.known t
      simpa [here] using hknown
    · exact hroom'
    · intro t
      by_cases ht : t ≤ s.clock ∧ s.clock < t + W
      · -- the new miss is in the span, which is not over: everything in it is since its beginning
        have hwithin := Limiter.within_le_since
          ⟨s.clock, s.rows, l₁ ++ .missed s.clock :: l₂⟩ W t
        have hroom := hroom' t ht.2
        omega
      · have hspan := h.span t
        simpa [Limiter.within, here, List.countP_cons, ht] using hspan
  | @record l₁ l₂ c r here later =>
    constructor
    · intro t
      have hknown := h.known t
      simp [here, List.countP_cons] at hknown ⊢
      split_ifs <;> omega
    · intro t ht
      have hroom := h.room t ht
      simpa [Limiter.since, here, List.countP_cons] using hroom
    · intro t
      have hspan := h.span t
      simpa [Limiter.within, here, List.countP_cons] using hspan

/-- **The limit holds along every run that begins with no tries.** -/
theorem Limited.run (h₀ : s₀.attempts = []) (h : Run N W s₀ s) : Limited N W s := by
  induction h with
  | refl => exact limited_of_no_attempts h₀
  | step _ hs ih => exact ih.step hs

end SlidingLimit

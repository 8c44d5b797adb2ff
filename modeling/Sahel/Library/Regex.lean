import Mathlib.Data.List.Basic
import Mathlib.Logic.Relation

/-!
# Backtracking regular expressions

Expressions as scripting languages match them, lookahead and end-of-text included.  What a match
of `r` at the front of a text leaves to be read is the list `r.run text`, in the order a
backtracking matcher tries it; `r.test` asks for any match there and `r.admits` for one of the
whole text.

* `mem_run_seq`, `mem_run_alt`, `mem_run_notAhead`, `mem_run_atEnd`: what each constructor leaves;
* `mem_run_star_chars`: a starred class of characters leaves what follows a block of them;
* `mem_run_plus_chars`: and one that is not starred but repeated, what follows a block of one or more;
* `mem_run_times_chars`: or of a number of them;
* `mem_run_text`: a fixed text leaves what follows it.
-/

set_option autoImplicit false

/-- Regular expressions over characters of `α`. -/
inductive Regex (α : Type) where
  | eps
  | chars (p : α → Bool)
  | seq (r s : Regex α)
  | alt (r s : Regex α)
  | star (r : Regex α)
  | notAhead (r : Regex α)
  | atEnd

namespace Regex

variable {α : Type}

/-- At most `n` rounds of `f`, each of which has to read something. -/
def rounds (f : List α → List (List α)) : ℕ → List α → List (List α)
  | 0, s => [s]
  | n + 1, s => ((f s).filter (fun t => decide (t.length < s.length))).flatMap (rounds f n) ++ [s]

/-- What matches of an expression at the front of a text leave of it. -/
def run : Regex α → List α → List (List α)
  | eps, s => [s]
  | .chars _, [] => []
  | .chars p, c :: s => if p c then [s] else []
  | seq r₁ r₂, s => (r₁.run s).flatMap r₂.run
  | alt r₁ r₂, s => r₁.run s ++ r₂.run s
  | star r, s => rounds r.run s.length s
  | notAhead r, s => if r.run s = [] then [s] else []
  | atEnd, s => if s = [] then [s] else []

/-- The expression matches at the front of the text. -/
def test (r : Regex α) (s : List α) : Prop := r.run s ≠ []

instance (r : Regex α) (s : List α) : Decidable (r.test s) :=
  match h : r.run s with
  | [] => isFalse (fun hn => hn h)
  | _ :: _ => isTrue (fun hn => by rw [h] at hn; cases hn)

/-- The expression matches the whole text. -/
def admits (r : Regex α) (s : List α) : Prop := [] ∈ r.run s

instance [DecidableEq α] (r : Regex α) (s : List α) : Decidable (r.admits s) :=
  inferInstanceAs (Decidable (_ ∈ _))

theorem test_iff {r : Regex α} {s : List α} : r.test s ↔ ∃ t, t ∈ r.run s := by
  constructor
  · exact List.exists_mem_of_ne_nil _
  · rintro ⟨t, ht⟩
    exact List.ne_nil_of_mem ht

/-! ### What each constructor leaves -/

theorem mem_run_chars {p : α → Bool} {s t : List α} :
    t ∈ (Regex.chars p).run s ↔ ∃ c, p c = true ∧ s = c :: t := by
  cases s with
  | nil =>
    show t ∈ [] ↔ _
    simp
  | cons c s =>
    show t ∈ (if p c then [s] else []) ↔ _
    by_cases hc : p c = true
    · rw [if_pos hc, List.mem_singleton]
      constructor
      · rintro rfl
        exact ⟨c, hc, rfl⟩
      · rintro ⟨d, -, he⟩
        cases he
        rfl
    · rw [if_neg hc]
      simp only [List.not_mem_nil, List.cons.injEq, false_iff, not_exists, not_and]
      rintro d hd rfl
      exact absurd hd hc

@[simp] theorem mem_run_seq {r₁ r₂ : Regex α} {s t : List α} :
    t ∈ (seq r₁ r₂).run s ↔ ∃ u, u ∈ r₁.run s ∧ t ∈ r₂.run u := by
  show t ∈ (r₁.run s).flatMap r₂.run ↔ _
  exact List.mem_flatMap

@[simp] theorem mem_run_alt {r₁ r₂ : Regex α} {s t : List α} :
    t ∈ (alt r₁ r₂).run s ↔ t ∈ r₁.run s ∨ t ∈ r₂.run s := by
  show t ∈ r₁.run s ++ r₂.run s ↔ _
  exact List.mem_append

@[simp] theorem mem_run_notAhead {r : Regex α} {s t : List α} :
    t ∈ (notAhead r).run s ↔ t = s ∧ ¬ r.test s := by
  show t ∈ (if r.run s = [] then [s] else []) ↔ _
  rw [test, not_not]
  split <;> simp [*]

@[simp] theorem mem_run_atEnd {s t : List α} : t ∈ (atEnd : Regex α).run s ↔ t = s ∧ s = [] := by
  show t ∈ (if s = [] then [s] else []) ↔ _
  split <;> simp [*]

/-! ### Repetition -/

/-- One round: something is read. -/
def Reads (f : List α → List (List α)) (s t : List α) : Prop := t ∈ f s ∧ t.length < s.length

theorem rounds_of_reads {f : List α → List (List α)} {s t : List α}
    (h : Relation.ReflTransGen (Reads f) s t) : ∀ n, s.length ≤ n → t ∈ rounds f n s := by
  induction h using Relation.ReflTransGen.head_induction_on with
  | refl =>
    intro n _
    cases n <;> simp [rounds]
  | head hr _ ih =>
    intro n hn
    cases n with
    | zero =>
      have := hr.2
      omega
    | succ n =>
      rw [rounds, List.mem_append, List.mem_flatMap]
      refine Or.inl ⟨_, List.mem_filter.mpr ⟨hr.1, decide_eq_true hr.2⟩, ih n ?_⟩
      have := hr.2
      omega

theorem reads_of_rounds {f : List α → List (List α)} {n : ℕ} {s t : List α}
    (h : t ∈ rounds f n s) : Relation.ReflTransGen (Reads f) s t := by
  induction n generalizing s with
  | zero =>
    rw [rounds, List.mem_singleton] at h
    rw [h]
  | succ n ih =>
    rw [rounds, List.mem_append, List.mem_flatMap, List.mem_singleton] at h
    rcases h with ⟨u, hu, ht⟩ | rfl
    · obtain ⟨hu, hlt⟩ := List.mem_filter.mp hu
      exact Relation.ReflTransGen.head ⟨hu, of_decide_eq_true hlt⟩ (ih ht)
    · exact Relation.ReflTransGen.refl

/-- **Repetition is rounds.** -/
theorem mem_run_star {r : Regex α} {s t : List α} :
    t ∈ (star r).run s ↔ Relation.ReflTransGen (Reads r.run) s t := by
  show t ∈ rounds r.run s.length s ↔ _
  exact ⟨reads_of_rounds, fun h => rounds_of_reads h s.length (Nat.le_refl _)⟩

/-- **A starred class** leaves what follows some block of its characters. -/
theorem mem_run_star_chars {p : α → Bool} {s t : List α} :
    t ∈ (star (Regex.chars p)).run s ↔ ∃ block, s = block ++ t ∧ ∀ c ∈ block, p c = true := by
  rw [mem_run_star]
  constructor
  · intro h
    induction h using Relation.ReflTransGen.head_induction_on with
    | refl => exact ⟨[], rfl, by simp⟩
    | head hr _ ih =>
      obtain ⟨c, hc, rfl⟩ := mem_run_chars.mp hr.1
      obtain ⟨block, rfl, hblock⟩ := ih
      exact ⟨c :: block, rfl, List.forall_mem_cons.mpr ⟨hc, hblock⟩⟩
  · rintro ⟨block, rfl, hblock⟩
    induction block with
    | nil => exact Relation.ReflTransGen.refl
    | cons c block ih =>
      obtain ⟨hc, hrest⟩ := List.forall_mem_cons.mp hblock
      exact Relation.ReflTransGen.head
        ⟨mem_run_chars.mpr ⟨c, hc, rfl⟩, by simp⟩ (ih hrest)

/-- **A class repeated** once or more. -/
theorem mem_run_plus_chars {p : α → Bool} {s t : List α} :
    t ∈ (seq (Regex.chars p) (star (Regex.chars p))).run s ↔
      ∃ block, block ≠ [] ∧ s = block ++ t ∧ ∀ c ∈ block, p c = true := by
  rw [mem_run_seq]
  constructor
  · intro h
    obtain ⟨u, hu, ht⟩ := h
    obtain ⟨c, hc, rfl⟩ := mem_run_chars.mp hu
    obtain ⟨block, rfl, hblock⟩ := mem_run_star_chars.mp ht
    exact ⟨c :: block, List.cons_ne_nil c block, rfl, List.forall_mem_cons.mpr ⟨hc, hblock⟩⟩
  · intro h
    obtain ⟨block, hne, rfl, hblock⟩ := h
    cases block with
    | nil => exact absurd rfl hne
    | cons c block =>
      obtain ⟨hc, hblock⟩ := List.forall_mem_cons.mp hblock
      exact ⟨block ++ t, mem_run_chars.mpr ⟨c, hc, rfl⟩, mem_run_star_chars.mpr ⟨block, rfl, hblock⟩⟩

/-- An expression `n` times over. -/
def times : ℕ → Regex α → Regex α
  | 0, _ => eps
  | n + 1, r => seq r (times n r)

/-- **A class `n` times over** leaves what follows a block of that length. -/
theorem mem_run_times_chars {p : α → Bool} {n : ℕ} {s t : List α} :
    t ∈ (times n (Regex.chars p)).run s ↔
      ∃ block, block.length = n ∧ s = block ++ t ∧ ∀ c ∈ block, p c = true := by
  induction n generalizing s with
  | zero =>
    show t ∈ [s] ↔ _
    rw [List.mem_singleton]
    constructor
    · rintro rfl
      exact ⟨[], rfl, rfl, by simp⟩
    · rintro ⟨block, hlen, rfl, -⟩
      rw [List.length_eq_zero_iff.mp hlen]
      rfl
  | succ n ih =>
    rw [times, mem_run_seq]
    constructor
    · intro h
      obtain ⟨u, hu, ht⟩ := h
      obtain ⟨c, hc, rfl⟩ := mem_run_chars.mp hu
      obtain ⟨block, hlen, rfl, hblock⟩ := ih.mp ht
      exact ⟨c :: block, congrArg (· + 1) hlen, rfl, List.forall_mem_cons.mpr ⟨hc, hblock⟩⟩
    · intro h
      obtain ⟨block, hlen, rfl, hblock⟩ := h
      cases block with
      | nil => cases hlen
      | cons c block =>
        obtain ⟨hc, hblock⟩ := List.forall_mem_cons.mp hblock
        exact ⟨block ++ t, mem_run_chars.mpr ⟨c, hc, rfl⟩,
          ih.mpr ⟨block, Nat.succ.inj hlen, rfl, hblock⟩⟩

/-! ### Fixed texts -/

/-- The expression of a fixed text. -/
def text [DecidableEq α] : List α → Regex α
  | [] => eps
  | c :: w => seq (Regex.chars (fun d => decide (d = c))) (text w)

theorem mem_run_text [DecidableEq α] {w s t : List α} : t ∈ (text w).run s ↔ s = w ++ t := by
  induction w generalizing s with
  | nil =>
    show t ∈ [s] ↔ s = t
    rw [List.mem_singleton, eq_comm]
  | cons c w ih =>
    rw [text, mem_run_seq]
    constructor
    · rintro ⟨u, hu, ht⟩
      obtain ⟨d, hd, rfl⟩ := mem_run_chars.mp hu
      rw [of_decide_eq_true hd, ih.mp ht]
      rfl
    · rintro rfl
      exact ⟨w ++ t, mem_run_chars.mpr ⟨c, by simp, rfl⟩, ih.mpr rfl⟩

end Regex

import Mathlib.Order.Interval.Set.LinearOrder
import Mathlib.Order.MinMax

/-!
# Half-open ranges

Two half-open ranges over a linear order overlap when both are non-empty and each starts before
the other ends.  `overlaps_iff_inter` ties that test to the sets it is about: the ranges overlap
exactly when they share a point.
-/

set_option autoImplicit false

namespace HalfOpen

variable {α : Type} [LinearOrder α]

/-- `[a, b)` and `[c, d)` overlap; an empty range overlaps nothing. -/
def Overlaps (a b c d : α) : Prop := a < b ∧ c < d ∧ a < d ∧ c < b

instance (a b c d : α) : Decidable (Overlaps a b c d) :=
  inferInstanceAs (Decidable (_ ∧ _ ∧ _ ∧ _))

theorem Overlaps.comm {a b c d : α} : Overlaps a b c d ↔ Overlaps c d a b := by
  constructor
  · rintro ⟨hab, hcd, had, hcb⟩
    exact ⟨hcd, hab, hcb, had⟩
  · rintro ⟨hcd, hab, hcb, had⟩
    exact ⟨hab, hcd, had, hcb⟩

/-- **Overlapping is sharing a point.** -/
theorem overlaps_iff_inter {a b c d : α} :
    Overlaps a b c d ↔ (Set.Ico a b ∩ Set.Ico c d).Nonempty := by
  rw [Set.Ico_inter_Ico, Set.nonempty_Ico, sup_lt_iff, lt_min_iff, lt_min_iff, Overlaps]
  constructor
  · rintro ⟨hab, hcd, had, hcb⟩
    exact ⟨⟨hab, had⟩, hcb, hcd⟩
  · rintro ⟨⟨hab, had⟩, hcb, hcd⟩
    exact ⟨hab, hcd, had, hcb⟩

theorem overlaps_iff {a b c d : α} :
    Overlaps a b c d ↔ ∃ x, (a ≤ x ∧ x < b) ∧ c ≤ x ∧ x < d :=
  overlaps_iff_inter

/-- Non-empty ranges that do not overlap lie one after the other. -/
theorem not_overlaps_iff {a b c d : α} (hab : a < b) (hcd : c < d) :
    ¬ Overlaps a b c d ↔ b ≤ c ∨ d ≤ a := by
  constructor
  · intro h
    by_contra hn
    rw [not_or, not_le, not_le] at hn
    exact h ⟨hab, hcd, hn.2, hn.1⟩
  · rintro (h | h) ⟨-, -, had, hcb⟩
    · exact absurd hcb (not_lt.mpr h)
    · exact absurd had (not_lt.mpr h)

/-- A longer first range overlaps whatever a shorter one does. -/
theorem Overlaps.mono {a b b' c d : α} (hb : b ≤ b') (h : Overlaps a b c d) :
    Overlaps a b' c d :=
  ⟨h.1.trans_le hb, h.2.1, h.2.2.1, h.2.2.2.trans_le hb⟩

end HalfOpen

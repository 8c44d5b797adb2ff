import Mathlib.Data.List.DropRight

/-!
# Stripping and splitting lists

A list without the elements at its two ends that satisfy a predicate, and a list cut at its
separators.

* `strip_strip`: stripping is idempotent;
* `strip_eq_self_iff`: a list is stripped when neither end satisfies the predicate;
* `splitOnP_pieces`: no piece holds a separator;
* **`splitOnP_intercalate`**: lists without separators, joined with a separator and some filling,
  split into themselves, with the filling in front of all but the first;
* `map_strip_splitOnP`: what is stripped off a list first is stripped off its pieces anyway.
-/

set_option autoImplicit false

namespace Strip

variable {α : Type}

/-- The list without what satisfies `p` at its ends. -/
def strip (p : α → Bool) (l : List α) : List α :=
  ((l.dropWhile p).reverse.dropWhile p).reverse

theorem strip_eq_rdropWhile (p : α → Bool) (l : List α) :
    strip p l = (l.dropWhile p).rdropWhile p := rfl

@[simp] theorem strip_nil (p : α → Bool) : strip p [] = [] := rfl

theorem strip_cons {p : α → Bool} {a : α} (h : p a = true) (l : List α) :
    strip p (a :: l) = strip p l := by
  rw [strip, List.dropWhile_cons_of_pos h, strip]

/-- Stripping takes nothing away exactly when neither end satisfies `p`. -/
theorem strip_eq_self_iff {p : α → Bool} {l : List α} :
    strip p l = l ↔ (∀ a ∈ l.head?, p a = false) ∧ ∀ a ∈ l.getLast?, p a = false := by
  rw [strip_eq_rdropWhile]
  have hends : l.dropWhile p = l ∧ l.rdropWhile p = l ↔
      (∀ a ∈ l.head?, p a = false) ∧ ∀ a ∈ l.getLast?, p a = false := by
    cases l with
    | nil => simp
    | cons a l =>
      rw [List.dropWhile_eq_self_iff, List.rdropWhile_eq_self_iff,
        List.getLast?_eq_getLast_of_ne_nil (List.cons_ne_nil a l)]
      simp
  rw [← hends]
  constructor
  · intro h
    have hleft : l.dropWhile p = l := by
      refine (List.dropWhile_suffix p).eq_of_length_le ?_
      calc l.length = ((l.dropWhile p).rdropWhile p).length := by rw [h]
        _ ≤ (l.dropWhile p).length := (List.rdropWhile_prefix p _).length_le
    rw [hleft] at h
    exact ⟨hleft, h⟩
  · rintro ⟨hleft, hright⟩
    rw [hleft, hright]

/-- What is left has no end that satisfies `p`. -/
theorem strip_strip (p : α → Bool) (l : List α) : strip p (strip p l) = strip p l := by
  have hleft : ∀ l : List α, l.dropWhile p = l → (l.rdropWhile p).dropWhile p = l.rdropWhile p := by
    intro l hl
    refine List.dropWhile_eq_self_iff.mpr (fun hpos => ?_)
    rw [List.IsPrefix.getElem (List.rdropWhile_prefix p l)]
    exact List.dropWhile_eq_self_iff.mp hl _
  rw [strip_eq_rdropWhile, strip_eq_rdropWhile, hleft _ (List.dropWhile_idempotent _ _),
    List.rdropWhile_idempotent]

theorem strip_concat {p : α → Bool} {a : α} (h : p a = true) (l : List α) :
    strip p (l ++ [a]) = strip p l := by
  induction l with
  | nil => rw [List.nil_append, strip_cons h]
  | cons b l ih =>
    by_cases hb : p b = true
    · rw [List.cons_append, strip_cons hb, strip_cons hb, ih]
    · rw [strip_eq_rdropWhile, strip_eq_rdropWhile, List.cons_append, List.dropWhile_cons_of_neg hb,
        List.dropWhile_cons_of_neg hb, ← List.cons_append, List.rdropWhile_concat_pos _ _ _ h]

/-- What is stripped is a part of the list. -/
theorem strip_part (p : α → Bool) (l : List α) : strip p l <:+: l :=
  (List.rdropWhile_prefix p _).isInfix.trans (List.dropWhile_suffix p).isInfix

theorem mem_of_mem_strip {p : α → Bool} {l : List α} {a : α} (h : a ∈ strip p l) : a ∈ l := by
  have hright := (List.rdropWhile_prefix p _).subset h
  exact (List.dropWhile_suffix p).subset hright

/-! ### Splitting -/

theorem splitOnP_pieces {p : α → Bool} : ∀ {l piece : List α}, piece ∈ l.splitOnP p →
    ∀ a ∈ piece, p a = false := by
  intro l
  induction l with
  | nil =>
    intro piece hp a ha
    rw [List.splitOnP_nil, List.mem_singleton] at hp
    rw [hp] at ha
    exact absurd ha List.not_mem_nil
  | cons b l ih =>
    intro piece hp a ha
    rw [List.splitOnP_cons_eq_if_modifyHead] at hp
    by_cases hb : p b = true
    · rw [if_pos hb] at hp
      rcases List.mem_cons.mp hp with rfl | hp
      · exact absurd ha List.not_mem_nil
      · exact ih hp a ha
    · rw [if_neg hb] at hp
      obtain ⟨first, rest, hsplit⟩ := List.exists_cons_of_ne_nil (List.splitOnP_ne_nil p l)
      rw [hsplit, List.modifyHead_cons] at hp
      rw [hsplit] at ih
      rcases List.mem_cons.mp hp with rfl | hp
      · rcases List.mem_cons.mp ha with rfl | ha
        · exact Bool.not_eq_true _ ▸ hb
        · exact ih List.mem_cons_self a ha
      · exact ih (List.mem_cons_of_mem _ hp) a ha

theorem mem_of_mem_piece {p : α → Bool} : ∀ {l piece : List α}, piece ∈ l.splitOnP p →
    ∀ a ∈ piece, a ∈ l := by
  intro l
  induction l with
  | nil =>
    intro piece hp a ha
    rw [List.splitOnP_nil, List.mem_singleton] at hp
    rwa [hp] at ha
  | cons b l ih =>
    intro piece hp a ha
    rw [List.splitOnP_cons_eq_if_modifyHead] at hp
    split at hp
    · rcases List.mem_cons.mp hp with rfl | hp
      · exact absurd ha List.not_mem_nil
      · exact List.mem_cons_of_mem _ (ih hp a ha)
    · obtain ⟨first, rest, hsplit⟩ := List.exists_cons_of_ne_nil (List.splitOnP_ne_nil p l)
      rw [hsplit, List.modifyHead_cons] at hp
      rcases List.mem_cons.mp hp with rfl | hp
      · rcases List.mem_cons.mp ha with rfl | ha
        · exact List.mem_cons_self
        · exact List.mem_cons_of_mem _ (ih (hsplit ▸ List.mem_cons_self) a ha)
      · exact List.mem_cons_of_mem _ (ih (hsplit ▸ List.mem_cons_of_mem _ hp) a ha)

/-- **A join with a separator splits again.** -/
theorem splitOnP_intercalate {p : α → Bool} {sep : α} {filling : List α} (hsep : p sep = true)
    (hfill : ∀ a ∈ filling, p a = false) :
    ∀ (first : List α) (rest : List (List α)), (∀ a ∈ first, p a = false) →
      (∀ l ∈ rest, ∀ a ∈ l, p a = false) →
      ((sep :: filling).intercalate (first :: rest)).splitOnP p
        = first :: rest.map (fun l => filling ++ l) := by
  intro first rest
  induction rest generalizing first with
  | nil =>
    intro hfirst _
    rw [List.intercalate_singleton, List.splitOnP_eq_singleton hfirst]
    rfl
  | cons next rest ih =>
    intro hfirst hrest
    obtain ⟨hnext, hrest⟩ := List.forall_mem_cons.mp hrest
    have hfilled : ∀ a ∈ filling ++ next, p a = false := by
      intro a ha
      rcases List.mem_append.mp ha with ha | ha
      · exact hfill a ha
      · exact hnext a ha
    have hmove : filling ++ (sep :: filling).intercalate (next :: rest)
        = (sep :: filling).intercalate ((filling ++ next) :: rest) := by
      cases rest with
      | nil => simp
      | cons => simp [List.intercalate_cons_cons]
    rw [List.intercalate_cons_cons, List.append_assoc, List.cons_append,
      List.splitOnP_append_cons_of_forall_mem hfirst sep hsep, hmove, ih _ hfilled hrest,
      List.map_cons]

/-- An element that is no separator goes to the last piece. -/
theorem splitOnP_concat {p : α → Bool} {a : α} (h : p a = false) (l : List α) :
    ∃ pieces last, l.splitOnP p = pieces ++ [last] ∧ (l ++ [a]).splitOnP p = pieces ++ [last ++ [a]] := by
  induction l with
  | nil => exact ⟨[], [], rfl, List.splitOnP_eq_singleton (by simpa using h)⟩
  | cons b l ih =>
    obtain ⟨pieces, last, hl, hla⟩ := ih
    rw [List.cons_append, List.splitOnP_cons_eq_if_modifyHead, List.splitOnP_cons_eq_if_modifyHead, hl, hla]
    by_cases hb : p b = true
    · rw [if_pos hb, if_pos hb]
      exact ⟨[] :: pieces, last, rfl, rfl⟩
    · rw [if_neg hb, if_neg hb]
      cases pieces with
      | nil => exact ⟨[], b :: last, rfl, rfl⟩
      | cons first rest => exact ⟨(b :: first) :: rest, last, rfl, rfl⟩

/-- **Stripped before or after.**  The pieces of a list, stripped, are those of the stripped list. -/
theorem map_strip_splitOnP {p q : α → Bool} {l : List α} (h : ∀ a ∈ l, q a = true → p a = false) :
    ((strip q l).splitOnP p).map (strip q) = (l.splitOnP p).map (strip q) := by
  have hleft : ((l.dropWhile q).splitOnP p).map (strip q) = (l.splitOnP p).map (strip q) := by
    induction l with
    | nil => rfl
    | cons a l ih =>
      by_cases ha : q a = true
      · obtain ⟨first, rest, hsplit⟩ := List.exists_cons_of_ne_nil (List.splitOnP_ne_nil p l)
        have hp : ¬ p a = true := by simp [h a List.mem_cons_self ha]
        rw [List.dropWhile_cons_of_pos ha, ih (fun b hb => h b (List.mem_cons_of_mem _ hb)),
          List.splitOnP_cons_eq_if_modifyHead, if_neg hp, hsplit, List.modifyHead_cons, List.map_cons,
          List.map_cons, strip_cons ha]
      · rw [List.dropWhile_cons_of_neg ha]
  have hright : ∀ m : List α, (∀ a ∈ m, q a = true → p a = false) →
      ((m.rdropWhile q).splitOnP p).map (strip q) = (m.splitOnP p).map (strip q) := by
    intro m
    induction m using List.reverseRecOn with
    | nil => exact fun _ => rfl
    | append_singleton m a ih =>
      intro hm
      by_cases ha : q a = true
      · obtain ⟨pieces, last, hsplit, hsplit'⟩ := splitOnP_concat (hm a (by simp) ha) m
        rw [List.rdropWhile_concat_pos _ _ _ ha, ih (fun b hb => hm b (List.mem_append_left _ hb)), hsplit,
          hsplit', List.map_append, List.map_append, List.map_singleton, List.map_singleton,
          strip_concat ha]
      · rw [List.rdropWhile_concat_neg _ _ _ ha]
  rw [strip_eq_rdropWhile, hright _ (fun a ha => h a ((List.dropWhile_suffix q).subset ha)), hleft]

/-! ### The ends of a join -/

theorem head?_intercalate {sep first : List α} (h : first ≠ []) (rest : List (List α)) :
    (sep.intercalate (first :: rest)).head? = first.head? := by
  cases rest with
  | nil => rw [List.intercalate_singleton]
  | cons next rest =>
    rw [List.intercalate_cons_cons, List.append_assoc, List.head?_append_of_ne_nil _ h]

theorem getLast?_intercalate {sep : List α} : ∀ {ls : List (List α)} {a : α}, [] ∉ ls →
    a ∈ (sep.intercalate ls).getLast? → ∃ l ∈ ls, a ∈ l.getLast? := by
  intro ls
  induction ls with
  | nil =>
    intro a _ ha
    exact absurd ha (by simp)
  | cons l ls ih =>
    intro a hne ha
    obtain ⟨hl, hls⟩ := not_or.mp (fun h => hne (List.mem_cons.mpr h))
    cases ls with
    | nil =>
      rw [List.intercalate_singleton] at ha
      exact ⟨l, List.mem_cons_self, ha⟩
    | cons next rest =>
      have hlong : sep.intercalate (next :: rest) ≠ [] := by
        intro hnil
        have hhead : (sep.intercalate (next :: rest)).head? = next.head? :=
          head?_intercalate (fun h => hls (h ▸ List.mem_cons_self)) rest
        rw [hnil] at hhead
        exact hls (List.head?_eq_none_iff.mp hhead.symm ▸ List.mem_cons_self)
      rw [List.intercalate_cons_cons, List.getLast?_append_of_ne_nil _ hlong] at ha
      obtain ⟨m, hm, ham⟩ := ih hls ha
      exact ⟨m, List.mem_cons_of_mem _ hm, ham⟩

end Strip

import Mathlib.Data.List.DropRight
import Sahel.Http.AdminInput
import Sahel.Library.Regex

/-!
# Slugs

The slug package: a name in lowercase letters and digits, with one hyphen for every run of anything
else.  `fold` strips the diacritics of a text, or fails; of ASCII text it changes nothing.

* `Canonical` are the slugs: not empty, no hyphen at either end, no two in a row;
* `make_canonical`, `make_of_canonical`: `Slug.make` answers a slug or nothing, and leaves a slug as
  it is;
* **`makeWithSuffix_canonical`**: with a number behind it a slug is one still;
* **`canonical_form`**: the slugs are what the form's pattern admits and what `checkSlug` takes.
-/

set_option autoImplicit false

namespace Sahel

namespace Slug

/-- A character of a slug, next to the hyphens. -/
def kept (c : Char) : Bool :=
  (0x61 ≤ c.toNat && c.toNat ≤ 0x7A) || (0x30 ≤ c.toNat && c.toNat ≤ 0x39)

/-- `unicode.ToLower`, as far as its value is ASCII: the letters, and the two beyond ASCII whose
lower case is an ASCII letter, U+0130 and U+212A. -/
def toLower (c : Char) : Char :=
  if 0x41 ≤ c.toNat ∧ c.toNat ≤ 0x5A then Char.ofNat (c.toNat + 0x20)
  else if c.toNat = 0x130 then 'i'
  else if c.toNat = 0x212A then 'k'
  else c

/-- The loop of `Make`; `prevDash` tells that nothing or a hyphen was written last. -/
def hyphenate : Bool → List Char → List Char
  | _, [] => []
  | prevDash, c :: s =>
    if kept c then c :: hyphenate false s
    else if prevDash then hyphenate true s
    else '-' :: hyphenate true s

/-- `Make`. -/
def make (fold : String → Option String) (s : String) : String :=
  let folded := (fold s).getD s
  String.ofList ((hyphenate true (folded.toList.map toLower)).rdropWhile (fun c => c == '-'))

example : make some "  Hacienda  Bay #4 (beach)" = "hacienda-bay-4-beach" ∧ make some "---" = "" := by
  decide +kernel

/-! ### Canonical slugs -/

/-- No hyphen comes first or after another one. -/
def Spaced : Bool → List Char → Prop
  | _, [] => True
  | prevDash, c :: s => (kept c = true ∧ Spaced false s) ∨ (c = '-' ∧ prevDash = false ∧ Spaced true s)

/-- A slug. -/
structure Canonical (s : List Char) : Prop where
  ne_nil : s ≠ []
  spaced : Spaced true s
  last : s.getLast? ≠ some '-'

theorem hyphenate_spaced : ∀ (s : List Char) (prevDash : Bool), Spaced prevDash (hyphenate prevDash s) := by
  intro s
  induction s with
  | nil => intro prevDash; trivial
  | cons c s ih =>
    intro prevDash
    rw [hyphenate]
    by_cases hc : kept c = true
    · rw [if_pos hc]
      exact Or.inl ⟨hc, ih false⟩
    · rw [if_neg hc]
      cases prevDash with
      | true => exact ih true
      | false => exact Or.inr ⟨rfl, rfl, ih true⟩

/-- What is spaced stays. -/
theorem hyphenate_of_spaced : ∀ {s : List Char} {prevDash : Bool}, Spaced prevDash s →
    hyphenate prevDash s = s := by
  intro s
  induction s with
  | nil => intro prevDash _; rfl
  | cons c s ih =>
    intro prevDash h
    rw [hyphenate]
    rcases h with ⟨hc, hrest⟩ | ⟨rfl, rfl, hrest⟩
    · rw [if_pos hc, ih hrest]
    · show '-' :: hyphenate true s = _
      rw [ih hrest]

theorem Spaced.append_left : ∀ {s t : List Char} {prevDash : Bool}, Spaced prevDash (s ++ t) →
    Spaced prevDash s := by
  intro s
  induction s with
  | nil => intro t prevDash _; trivial
  | cons c s ih =>
    intro t prevDash h
    rcases h with ⟨hc, hrest⟩ | ⟨hc, hdash, hrest⟩
    · exact Or.inl ⟨hc, ih hrest⟩
    · exact Or.inr ⟨hc, hdash, ih hrest⟩

theorem spaced_of_kept : ∀ {s : List Char} (prevDash : Bool), (∀ c ∈ s, kept c = true) →
    Spaced prevDash s := by
  intro s
  induction s with
  | nil => intro prevDash _; trivial
  | cons c s ih =>
    intro prevDash h
    obtain ⟨hc, hs⟩ := List.forall_mem_cons.mp h
    exact Or.inl ⟨hc, ih false hs⟩

/-- A hyphen may follow what does not end with one. -/
theorem Spaced.hyphen : ∀ {s t : List Char} {prevDash : Bool}, Spaced prevDash s → s ≠ [] →
    s.getLast? ≠ some '-' → Spaced true t → Spaced prevDash (s ++ '-' :: t) := by
  intro s
  induction s with
  | nil => intro t prevDash _ hne; exact absurd rfl hne
  | cons c s ih =>
    intro t prevDash h _ hlast ht
    cases s with
    | nil =>
      rcases h with ⟨hc, -⟩ | ⟨rfl, -⟩
      · exact Or.inl ⟨hc, Or.inr ⟨rfl, rfl, ht⟩⟩
      · exact absurd rfl hlast
    | cons d s =>
      rw [List.getLast?_cons_cons] at hlast
      rcases h with ⟨hc, hrest⟩ | ⟨hc, hdash, hrest⟩
      · exact Or.inl ⟨hc, ih hrest (List.cons_ne_nil d s) hlast ht⟩
      · exact Or.inr ⟨hc, hdash, ih hrest (List.cons_ne_nil d s) hlast ht⟩

theorem mem_of_spaced : ∀ {s : List Char} {prevDash : Bool}, Spaced prevDash s →
    ∀ c ∈ s, kept c = true ∨ c = '-' := by
  intro s
  induction s with
  | nil => intro prevDash _ c hc; exact absurd hc List.not_mem_nil
  | cons d s ih =>
    intro prevDash h c hc
    rcases h with ⟨hd, hrest⟩ | ⟨hd, -, hrest⟩
    · rcases List.mem_cons.mp hc with rfl | hc
      · exact Or.inl hd
      · exact ih hrest c hc
    · rcases List.mem_cons.mp hc with rfl | hc
      · exact Or.inr hd
      · exact ih hrest c hc

/-! ### Making slugs -/

/-- **What `Make` answers**: a slug, or nothing. -/
theorem make_canonical (fold : String → Option String) (s : String) :
    make fold s = "" ∨ Canonical (make fold s).toList := by
  obtain ⟨l, hl⟩ : ∃ l, hyphenate true (((fold s).getD s).toList.map toLower) = l := ⟨_, rfl⟩
  have hmake : make fold s = String.ofList (l.rdropWhile (fun c => c == '-')) := by
    rw [← hl]
    rfl
  have hspaced : Spaced true l := by
    rw [← hl]
    exact hyphenate_spaced _ true
  by_cases hnil : l.rdropWhile (fun c => c == '-') = []
  · left
    rw [hmake, hnil]
  · right
    rw [hmake, String.toList_ofList]
    refine ⟨hnil, ?_, ?_⟩
    · obtain ⟨rest, hrest⟩ := List.rdropWhile_prefix (fun c => c == '-') l
      rw [← hrest] at hspaced
      exact hspaced.append_left
    · rw [List.getLast?_eq_getLast_of_ne_nil hnil]
      intro hlast
      have hend := List.rdropWhile_last_not (fun c => c == '-') l hnil
      rw [Option.some.inj hlast] at hend
      exact absurd hend (by decide)

/-- The normaliser leaves ASCII text as it is. -/
def KeepsAscii (fold : String → Option String) : Prop :=
  ∀ s : String, (∀ c ∈ s.toList, c.toNat < 0x80) → fold s = some s

/-- **A slug is its own slug.** -/
theorem make_of_canonical {fold : String → Option String} (hfold : KeepsAscii fold) {s : String}
    (h : Canonical s.toList) : make fold s = s := by
  have hchars := mem_of_spaced h.spaced
  have hkept : ∀ c, kept c = true ∨ c = '-' → c.toNat < 0x80 ∧ toLower c = c := by
    intro c hc
    have hrange : (0x61 ≤ c.toNat ∧ c.toNat ≤ 0x7A) ∨ (0x30 ≤ c.toNat ∧ c.toNat ≤ 0x39) ∨
        c.toNat = 0x2D := by
      rcases hc with hc | rfl
      · simp only [kept, Bool.or_eq_true, Bool.and_eq_true, decide_eq_true_eq] at hc
        omega
      · exact Or.inr (Or.inr rfl)
    refine ⟨by omega, ?_⟩
    rw [toLower, if_neg (by omega), if_neg (by omega), if_neg (by omega)]
  have hlower : s.toList.map toLower = s.toList := by
    refine (List.map_congr_left (fun c hc => (hkept c (hchars c hc)).2)).trans (List.map_id' _)
  have hlast : s.toList.rdropWhile (fun c => c == '-') = s.toList := by
    rw [List.rdropWhile_eq_self_iff]
    intro hne hend
    refine h.last ?_
    rw [List.getLast?_eq_getLast_of_ne_nil hne, eq_of_beq hend]
  rw [make, hfold s (fun c hc => (hkept c (hchars c hc)).1)]
  show String.ofList ((hyphenate true (s.toList.map toLower)).rdropWhile _) = s
  rw [hlower, hyphenate_of_spaced h.spaced, hlast, String.ofList_toList]

/-- `strconv.Itoa` of a number that is not negative. -/
def itoa (n : ℕ) : String := toString n

theorem itoa_toList (n : ℕ) : (itoa n).toList = Nat.toDigits 10 n := Nat.toList_repr

theorem kept_of_mem_itoa {n : ℕ} {c : Char} (h : c ∈ (itoa n).toList) : kept c = true := by
  rw [itoa_toList] at h
  have hdigit := Nat.isDigit_of_mem_toDigits (by decide) (by decide) h
  rw [Char.isDigit, Bool.and_eq_true, decide_eq_true_eq, decide_eq_true_eq] at hdigit
  rw [kept, Bool.or_eq_true, Bool.and_eq_true, Bool.and_eq_true, decide_eq_true_eq, decide_eq_true_eq,
    decide_eq_true_eq, decide_eq_true_eq]
  exact Or.inr hdigit

theorem itoa_ne_nil (n : ℕ) : (itoa n).toList ≠ [] := by
  rw [itoa_toList]
  exact Nat.toDigits_ne_nil

/-- `MakeWithSuffix`, over `Make`. -/
def makeWithSuffix (make : String → String) (s : String) (n : ℕ) : String :=
  if n = 0 then make s else make s ++ "-" ++ itoa n

/-- The package, and a way to quote. -/
def texts (fold : String → Option String) (quote : String → String) : Texts := ⟨make fold, quote⟩

theorem canonical_append {s : List Char} (h : Canonical s) (n : ℕ) :
    Canonical (s ++ '-' :: (itoa n).toList) := by
  refine ⟨by simp, h.spaced.hyphen h.ne_nil h.last (spaced_of_kept true (fun c => kept_of_mem_itoa)), ?_⟩
  rw [List.getLast?_append_of_ne_nil _ (List.cons_ne_nil _ _),
    List.getLast?_cons_of_ne_nil (itoa_ne_nil n)]
  intro hlast
  have hkept := kept_of_mem_itoa (List.mem_of_getLast? hlast)
  exact absurd hkept (by decide)

/-- **A slug with a number behind it** is one still. -/
theorem makeWithSuffix_canonical {fold : String → Option String} (hfold : KeepsAscii fold) {s : String}
    (h : Canonical s.toList) {n : ℕ} (hn : n ≠ 0) :
    makeWithSuffix (make fold) s n = s ++ "-" ++ itoa n ∧
      Canonical (makeWithSuffix (make fold) s n).toList := by
  have hmake : makeWithSuffix (make fold) s n = s ++ "-" ++ itoa n := by
    rw [makeWithSuffix, if_neg hn, make_of_canonical hfold h]
  refine ⟨hmake, ?_⟩
  rw [hmake, String.toList_append, String.toList_append, List.append_assoc]
  exact canonical_append h n

/-- **What `checkSlug` takes**: the slugs. -/
theorem checkSlug_of_canonical {fold : String → Option String} (hfold : KeepsAscii fold)
    (quote : String → String) {s : String} (h : Canonical s.toList) :
    checkSlug (texts fold quote) s = .ok ⟨⟩ := by
  refine if_neg (not_or.mpr ⟨?_, not_not.mpr (make_of_canonical hfold h)⟩)
  rintro rfl
  exact h.ne_nil rfl

/-! ### The form's pattern -/

def slugChars : Regex Char := .seq (.chars kept) (.star (.chars kept))

/-- A hyphen and what follows it. -/
def slugGroup : Regex Char := .seq (.text ['-']) slugChars

/-- The `pattern` of the slug field, `[a-z0-9]+(-[a-z0-9]+)*`, which the whole value has to match. -/
def slugPattern : Regex Char := .seq slugChars (.star slugGroup)

theorem mem_run_slugGroup {s t : List Char} : t ∈ slugGroup.run s ↔
    ∃ block, block ≠ [] ∧ s = '-' :: (block ++ t) ∧ ∀ c ∈ block, kept c = true := by
  rw [slugGroup, Regex.mem_run_seq]
  constructor
  · intro h
    obtain ⟨u, hu, ht⟩ := h
    obtain ⟨block, hne, rfl, hblock⟩ := Regex.mem_run_plus_chars.mp ht
    exact ⟨block, hne, Regex.mem_run_text.mp hu, hblock⟩
  · intro h
    obtain ⟨block, hne, rfl, hblock⟩ := h
    exact ⟨block ++ t, Regex.mem_run_text.mpr rfl, Regex.mem_run_plus_chars.mpr ⟨block, hne, rfl, hblock⟩⟩

/-- A block of letters and digits is a slug. -/
theorem canonical_of_kept {block : List Char} (hne : block ≠ []) (h : ∀ c ∈ block, kept c = true) :
    Canonical block := by
  refine ⟨hne, spaced_of_kept true h, fun hlast => ?_⟩
  have hkept := h '-' (List.mem_of_getLast? hlast)
  exact absurd hkept (by decide)

/-- A slug behind a block and a hyphen is one. -/
theorem Canonical.behind {block s : List Char} (hblock : Canonical block) (hs : Canonical s) :
    Canonical (block ++ '-' :: s) := by
  refine ⟨by simp, hblock.spaced.hyphen hblock.ne_nil hblock.last hs.spaced, ?_⟩
  rw [List.getLast?_append_of_ne_nil _ (List.cons_ne_nil _ _), List.getLast?_cons_of_ne_nil hs.ne_nil]
  exact hs.last

/-- **The groups** behind a block leave a slug. -/
theorem canonical_of_groups {rest : List Char}
    (h : Relation.ReflTransGen (Regex.Reads slugGroup.run) rest []) :
    ∀ block : List Char, block ≠ [] → (∀ c ∈ block, kept c = true) → Canonical (block ++ rest) := by
  induction h using Relation.ReflTransGen.head_induction_on with
  | refl =>
    intro block hne hblock
    rw [List.append_nil]
    exact canonical_of_kept hne hblock
  | head hr _ ih =>
    intro block hne hblock
    obtain ⟨next, hnext, rfl, hkept⟩ := mem_run_slugGroup.mp hr.1
    exact (canonical_of_kept hne hblock).behind (ih next hnext hkept)

/-- What is spaced and has no hyphen at its end is a block and groups. -/
theorem groups_of_spaced : ∀ (s : List Char) (prevDash : Bool), Spaced prevDash s →
    s.getLast? ≠ some '-' → ∃ block rest, s = block ++ rest ∧ (∀ c ∈ block, kept c = true) ∧
      Relation.ReflTransGen (Regex.Reads slugGroup.run) rest [] ∧
      (prevDash = true → s ≠ [] → block ≠ []) := by
  intro s
  induction s with
  | nil => exact fun _ _ _ => ⟨[], [], rfl, by simp, .refl, fun _ h => h⟩
  | cons c s ih =>
    intro prevDash h hlast
    have htail : s.getLast? ≠ some '-' := by
      cases s with
      | nil => simp
      | cons d s => rwa [List.getLast?_cons_cons] at hlast
    rcases h with ⟨hc, hrest⟩ | ⟨rfl, rfl, hrest⟩
    · obtain ⟨block, rest, rfl, hblock, hgroups, -⟩ := ih false hrest htail
      exact ⟨c :: block, rest, rfl, List.forall_mem_cons.mpr ⟨hc, hblock⟩, hgroups,
        fun _ _ => List.cons_ne_nil c block⟩
    · -- a hyphen is never the last character, so that a block follows it
      have hne : s ≠ [] := by
        rintro rfl
        exact hlast rfl
      obtain ⟨block, rest, rfl, hblock, hgroups, hfirst⟩ := ih true hrest htail
      have hshorter : rest.length < ('-' :: (block ++ rest)).length := by
        rw [List.length_cons, List.length_append]
        omega
      refine ⟨[], '-' :: (block ++ rest), rfl, by simp, ?_, fun h => by cases h⟩
      exact .head ⟨mem_run_slugGroup.mpr ⟨block, hfirst rfl hne, rfl, hblock⟩, hshorter⟩ hgroups

/-- **The pattern admits the slugs** and nothing else. -/
theorem slugPattern_admits_iff {s : List Char} : slugPattern.admits s ↔ Canonical s := by
  rw [Regex.admits, slugPattern, Regex.mem_run_seq]
  constructor
  · intro h
    obtain ⟨rest, hchars, hgroups⟩ := h
    obtain ⟨block, hne, rfl, hblock⟩ := Regex.mem_run_plus_chars.mp hchars
    exact canonical_of_groups (Regex.mem_run_star.mp hgroups) block hne hblock
  · intro h
    obtain ⟨block, rest, rfl, hblock, hgroups, hfirst⟩ := groups_of_spaced s true h.spaced h.last
    exact ⟨rest, Regex.mem_run_plus_chars.mpr ⟨block, hfirst rfl h.ne_nil, rfl, hblock⟩,
      Regex.mem_run_star.mpr hgroups⟩

/-- **Slugs have one form**: `Make` answers nothing or what the form's pattern admits, changes nothing
of its own answer, and `checkSlug` takes what the pattern admits. -/
theorem canonical_form {fold : String → Option String} (hfold : KeepsAscii fold)
    (quote : String → String) (s : String) :
    (make fold s = "" ∨ slugPattern.admits (make fold s).toList) ∧
      make fold (make fold s) = make fold s ∧
      (checkSlug.{0} (texts fold quote) s = .ok ⟨⟩ ↔ slugPattern.admits s.toList) := by
  refine ⟨(make_canonical fold s).imp_right slugPattern_admits_iff.mpr, ?_, ?_, ?_⟩
  · rcases make_canonical fold s with hnone | hslug
    · rw [hnone, make, hfold "" (fun c hc => absurd hc List.not_mem_nil)]
      rfl
    · exact make_of_canonical hfold hslug
  · intro h
    by_cases hbad : s = "" ∨ (texts fold quote).slugMake s ≠ s
    · rw [checkSlug, if_pos hbad] at h
      cases h
    · obtain ⟨hne, hsame⟩ := not_or.mp hbad
      replace hsame : make fold s = s := not_not.mp hsame
      rw [slugPattern_admits_iff, ← hsame]
      exact (make_canonical fold s).resolve_left (fun hnone => hne (hsame.symm.trans hnone))
  · intro h
    exact checkSlug_of_canonical hfold quote (slugPattern_admits_iff.mp h)

/-- Of two names, one of which is a slug. -/
theorem canonical_form_bay :
    make some (make some "Hacienda  Bay #4") = "hacienda-bay-4" ∧
      checkSlug.{0} (texts some id) "hacienda-bay-4" = .ok ⟨⟩ ∧
      checkSlug.{0} (texts some id) "hacienda--bay" ≠ .ok ⟨⟩ := by
  have hfold : KeepsAscii some := fun _ _ => rfl
  refine ⟨((canonical_form hfold id "Hacienda  Bay #4").2.1).trans (by decide +kernel), ?_, ?_⟩
  · exact (canonical_form hfold id "hacienda-bay-4").2.2.mpr (by decide +kernel)
  · exact fun h => absurd ((canonical_form hfold id "hacienda--bay").2.2.mp h) (by decide +kernel)

end Slug

end Sahel

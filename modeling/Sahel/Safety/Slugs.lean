import Sahel.Http.AdminRows
import Sahel.Model.World

/-!
# The slug of a new row

A POST without a slug derives one from the English name, and numbers it while it is taken.

* `Round` is what one insert comes to, `Looped` what the loop of `insertWithSlug` does;
* `SlugRules` is what a POST of a unit, a compound or an area comes to, by the slugs that are taken;
* **`slugs_derived`**: these rules hold.
-/

set_option autoImplicit false

namespace Sahel

open KeyedTable ReadCommitted AtomicCalls

/-- The same record under a slug and an id. -/
def Kind.under : (k : Kind) → k.Record → String → ℕ → k.Record
  | .unit, r, sl, id => { (r : UnitRecord) with slug := sl, id := id }
  | .compound, r, sl, id => { (r : CompoundRecord) with slug := sl, id := id }
  | .area, r, sl, id => { (r : AreaRecord) with slug := sl, id := id }
  | .owner, r, _, id => { (r : OwnerRecord) with id := id }

theorem Kind.record_under {k : Kind} (arg : k.Params) (sl : String) (id : ℕ) :
    k.record (k.withId (k.withSlug arg sl) id) = k.under (k.record arg) sl id := by
  cases k <;> rfl

theorem Kind.id_withId {k : Kind} (arg : k.Params) (id : ℕ) : k.id (k.withId arg id) = id := by
  cases k <;> rfl

theorem Kind.referable_under {k : Kind} {r : k.Record} {sl : String} {id : ℕ} {d : Rows} :
    k.Referable (k.under r sl id) d ↔ k.Referable r d := by
  cases k <;> rfl

/-- What a row that has a slug is refused for. -/
theorem Kind.slugFree_under {k : Kind} (hk : k ≠ .owner) {r : k.Record} {sl : String} {id : ℕ}
    {d : Rows} : k.SlugFree (k.under r sl id) d ↔ sl ∉ k.slugs d := by
  have hslug : k.slug (k.under r sl id) = some sl := by
    cases k with
    | owner => exact absurd rfl hk
    | _ => rfl
  rw [Kind.SlugFree, hslug]
  constructor
  · exact fun h hmem => h sl hmem rfl
  · intro h sl' hmem heq
    rw [Option.some.inj heq] at h
    exact h hmem

/-! ### What a create comes to -/

/-- `row` is answered and stored under an id that was new; no other row has changed. -/
structure Posted (k : Kind) (row : k.Record) (d : Rows)
    (out : Except ApiError k.Record × EditRows) : Prop where
  answer : out.1 = .ok row
  new : k.find (k.recordId row) d = none
  self : k.find (k.recordId row) out.2.1 = some row
  other : ∀ (k' : Kind) (id : ℕ), k' ≠ k ∨ id ≠ k.recordId row → k'.find id out.2.1 = k'.find id d

/-- An error is answered and nothing has changed. -/
structure Refused {α : Type} (d : Rows) (out : Except ApiError α × EditRows) : Prop where
  answer : ∃ e, out.1 = .error e
  same : out.2.1 = d

theorem Posted.not_refused {k : Kind} {row : k.Record} {d : Rows}
    {out : Except ApiError k.Record × EditRows} (h : Posted k row d out) : ¬ Refused d out := by
  intro hr
  obtain ⟨e, he⟩ := hr.answer
  rw [h.answer] at he
  cases he

/-- What one insert of `row` comes to. -/
inductive Round (k : Kind) (row : k.Record) (d : Rows) :
    Except PgError k.Record × EditRows → Prop where
  | stored {d' : Rows} (free : k.SlugFree row d) (refs : k.Referable row d)
      (h : Posted k row d (.ok row, (d', ⟨⟩))) : Round k row d (.ok row, (d', ⟨⟩))
  | taken (h : ¬ k.SlugFree row d) (c : String) : Round k row d (.error (.uniqueViolation c), (d, ⟨⟩))
  | dangling (free : k.SlugFree row d) (h : ¬ k.Referable row d) (c : String) :
      Round k row d (.error (.fkViolation c), (d, ⟨⟩))

/-- **One insert** under an id that is new. -/
theorem round_create (now : ℤ) {k : Kind} {arg : k.Params} {o : Oracle} {d : Rows}
    (hstore : k.Storable (k.withId arg o.uuid)) (hnew : k.find o.uuid d = none) :
    Round k (k.record (k.withId arg o.uuid)) d
      (reply editPostgres (.inr (.adminCreate k arg)) o now (d, ⟨⟩)) := by
  have heval : editPostgres.eval (.inr (.adminCreate k arg)) o now (d, ⟨⟩)
      = Extra.answerOn Sum.inr (k.create (k.withId arg o.uuid) d) := rfl
  have hid := Kind.id_withId arg o.uuid
  rw [reply, heval]
  cases hc : k.create (k.withId arg o.uuid) d with
  | ok p =>
    obtain ⟨v, ws⟩ := p
    obtain ⟨w, rfl, hw⟩ := Kind.create_ok hc
    obtain ⟨rfl, hfree, hslug, href, hins⟩ := hw
    refine .stored hslug href ⟨rfl, ?_, ?_, ?_⟩
    · rw [Kind.recordId_record]
      exact hfree
    · rw [Kind.recordId_record]
      exact hins.self d hfree
    · rw [Kind.recordId_record]
      exact fun k' id hne => hins.other k' id d hfree hne
  | error e =>
    rw [← hid] at hnew
    rcases Kind.create_error hc hstore hnew with ⟨htaken, c, rfl⟩ | ⟨hslug, href, c, rfl⟩
    · exact .taken htaken c
    · exact .dangling hslug href c

/-! ### The loop -/

/-- What the loop does with the slugs `sl` and the ids `ids`, one round after the other. -/
def Looped (k : Kind) (row : k.Record) (d : Rows) (sl : ℕ → String) (ids : ℕ → ℕ) (left : ℕ)
    (out : Except ApiError k.Record × EditRows) : Prop :=
  ((∀ j ≤ left, sl j ∈ k.slugs d) ∧ Refused d out) ∨
    ∃ j ≤ left, (∀ i < j, sl i ∈ k.slugs d) ∧ sl j ∉ k.slugs d ∧
      ((k.Referable row d ∧ Posted k (k.under row (sl j) (ids j)) d out) ∨
        (¬ k.Referable row d ∧ Refused d out))

/-- A round that meets a taken slug goes on. -/
theorem Looped.next {k : Kind} {row : k.Record} {d : Rows} {sl : ℕ → String} {ids : ℕ → ℕ} {left : ℕ}
    {out : Except ApiError k.Record × EditRows} (h₀ : sl 0 ∈ k.slugs d)
    (h : Looped k row d (fun j => sl (j + 1)) (fun j => ids (j + 1)) left out) :
    Looped k row d sl ids (left + 1) out := by
  have hall : ∀ {j : ℕ}, (∀ i < j, sl (i + 1) ∈ k.slugs d) → ∀ i < j + 1, sl i ∈ k.slugs d := by
    intro j hj i hi
    cases i with
    | zero => exact h₀
    | succ i => exact hj i (Nat.lt_of_succ_lt_succ hi)
  rcases h with ⟨htaken, hout⟩ | ⟨j, hj, hbefore, hfree, hout⟩
  · refine Or.inl ⟨fun j hj => ?_, hout⟩
    exact hall (j := left + 1) (fun i hi => htaken i (Nat.lt_succ_iff.mp hi)) j
      (Nat.lt_succ_iff.mpr hj)
  · exact Or.inr ⟨j + 1, Nat.succ_le_succ hj, hall hbefore, hfree, hout⟩

section First

variable {k : Kind} {row : k.Record} {d : Rows} {sl : ℕ → String} {ids : ℕ → ℕ} {left : ℕ}
variable {out : Except ApiError k.Record × EditRows}

/-- A first round whose slug is not taken is the last one. -/
theorem Looped.first_posted (hk : k ≠ .owner) (free : k.SlugFree (k.under row (sl 0) (ids 0)) d)
    (refs : k.Referable (k.under row (sl 0) (ids 0)) d)
    (h : Posted k (k.under row (sl 0) (ids 0)) d out) : Looped k row d sl ids left out :=
  Or.inr ⟨0, Nat.zero_le left, fun i hi => absurd hi (Nat.not_lt_zero i), (Kind.slugFree_under hk).mp free,
    Or.inl ⟨Kind.referable_under.mp refs, h⟩⟩

theorem Looped.first_dangling (hk : k ≠ .owner) (free : k.SlugFree (k.under row (sl 0) (ids 0)) d)
    (refs : ¬ k.Referable (k.under row (sl 0) (ids 0)) d) (h : Refused d out) :
    Looped k row d sl ids left out :=
  Or.inr ⟨0, Nat.zero_le left, fun i hi => absurd hi (Nat.not_lt_zero i), (Kind.slugFree_under hk).mp free,
    Or.inr ⟨fun href => refs (Kind.referable_under.mpr href), h⟩⟩

theorem Kind.mem_slugs_of_taken (hk : k ≠ .owner) {s : String} {id : ℕ}
    (h : ¬ k.SlugFree (k.under row s id) d) : s ∈ k.slugs d :=
  not_not.mp (fun hfree => h ((Kind.slugFree_under hk).mpr hfree))

end First

section Loop

variable (texts : Texts) (base : String) (now : ℤ) {k : Kind} {arg : k.Params} {d : Rows}

/-- What the slug and the id of round `n` come to. -/
theorem round_try (hstore : k.Storable arg) {o : Oracle} (hnew : k.find o.uuid d = none) (n : ℕ) :
    Round k (k.under (k.record arg) (slugOfTry texts base n) o.uuid) d
      (reply editPostgres (.inr (.adminCreate k (k.withSlug arg (slugOfTry texts base n)))) o now
        (d, ⟨⟩)) := by
  have h := round_create now (hstore.under (slugOfTry texts base n) o.uuid) hnew
  rwa [Kind.record_under] at h

theorem serve_insertTry_bind {α : Type} {f : Except PgError k.Record → EditHandler α} {n : ℕ}
    {os : ℕ → Oracle} :
    serve editPostgres now (insertTry texts k arg base n >>= f) os (d, ⟨⟩)
      = serve editPostgres now
          (f (reply editPostgres (.inr (.adminCreate k (k.withSlug arg (slugOfTry texts base n)))) (os 0) now
            (d, ⟨⟩)).1) (fun m => os (m + 1))
          (reply editPostgres (.inr (.adminCreate k (k.withSlug arg (slugOfTry texts base n)))) (os 0) now
            (d, ⟨⟩)).2 :=
  rfl

/-- **The loop**, over a slug that was derived. -/
theorem looped_insertFrom (hk : k ≠ .owner) (hstore : k.Storable arg) (left : ℕ) :
    ∀ (n : ℕ) (os : ℕ → Oracle), (∀ j, k.find (os j).uuid d = none) →
      Looped k (k.record arg) d (fun j => slugOfTry texts base (n + j)) (fun j => (os j).uuid) left
        (serve editPostgres now (insertFrom texts k arg base false left n) os (d, ⟨⟩)) := by
  induction left with
  | zero =>
    intro n os hnew
    have hround := round_try texts base now hstore (hnew 0) n
    rw [insertFrom, serve_insertTry_bind texts base now]
    revert hround
    generalize reply editPostgres _ (os 0) now (d, ⟨⟩) = out
    intro hround
    cases hround with
    | stored free refs h => exact .first_posted hk free refs h
    | taken h c =>
      refine Or.inl ⟨fun j hj => ?_, ⟨_, rfl⟩, rfl⟩
      rw [Nat.le_zero.mp hj]
      exact Kind.mem_slugs_of_taken hk h
    | dangling free h c => exact .first_dangling hk free h ⟨⟨_, rfl⟩, rfl⟩
  | succ left ih =>
    intro n os hnew
    have hround := round_try texts base now hstore (hnew 0) n
    rw [insertFrom, serve_insertTry_bind texts base now]
    revert hround
    generalize reply editPostgres _ (os 0) now (d, ⟨⟩) = out
    intro hround
    cases hround with
    | stored free refs h => exact .first_posted hk free refs h
    | taken h c =>
      have hrest := ih (n + 1) (fun m => os (m + 1)) (fun j => hnew (j + 1))
      have hsucc : (fun j => slugOfTry texts base (n + 1 + j)) =
          fun j => slugOfTry texts base (n + (j + 1)) := by
        funext j
        rw [Nat.add_assoc, Nat.add_comm 1 j]
      rw [hsucc] at hrest
      exact Looped.next (Kind.mem_slugs_of_taken hk h) hrest
    | dangling free h c => exact .first_dangling hk free h ⟨⟨_, rfl⟩, rfl⟩

/-- **A slug that was given** is tried once. -/
theorem insertWithSlug_explicit (hk : k ≠ .owner) (hstore : k.Storable arg) {os : ℕ → Oracle}
    (hnew : k.find (os 0).uuid d = none) :
    let out := serve editPostgres now (insertWithSlug texts k arg base true) os (d, ⟨⟩)
    (base ∉ k.slugs d ∧ k.Referable (k.record arg) d ∧
        Posted k (k.under (k.record arg) base (os 0).uuid) d out) ∨
      (¬ (base ∉ k.slugs d ∧ k.Referable (k.record arg) d) ∧ Refused d out) := by
  have hround := round_try texts base now hstore hnew 1
  rw [insertWithSlug, insertFrom, serve_insertTry_bind texts base now]
  revert hround
  generalize reply editPostgres _ (os 0) now (d, ⟨⟩) = r
  intro hround
  cases hround with
  | stored free refs h =>
    exact Or.inl ⟨(Kind.slugFree_under hk).mp free, Kind.referable_under.mp refs, h⟩
  | taken h c =>
    exact Or.inr ⟨fun hfree => hfree.1 (Kind.mem_slugs_of_taken hk h), ⟨_, rfl⟩, rfl⟩
  | dangling free h c =>
    exact Or.inr ⟨fun hfree => h (Kind.referable_under.mpr hfree.2), ⟨_, rfl⟩, rfl⟩

end Loop

/-! ### The rules -/

/-- The slug a body gives, empty when it gives none. -/
def Kind.givenSlug : (k : Kind) → k.Input → String
  | .unit, b => setField "" (UnitInput.slug b)
  | .compound, b => setField "" (CompoundInput.slug b)
  | .area, b => setField "" (AreaInput.slug b)
  | .owner, _ => ""

/-- The body passes every check of a POST and leaves `row`. -/
structure Kind.Valid (texts : Texts) (k : Kind) (body : k.Input) (row : k.Record) : Prop where
  required : k.requireOnCreate body = .ok ⟨⟩
  applied : k.apply texts body k.fresh = .ok row

/-- `base`, `base-2`, `base-3` and so on. -/
def numbered (base : String) (n : ℕ) : String := if n ≤ 1 then base else base ++ "-" ++ Slug.itoa n

/-- A POST that derives its slug: the first of the fifty that is not taken. -/
structure DerivesSlug (texts : Texts) (k : Kind) (row : k.Record) (base : String) (d : Rows) (ids : ℕ → ℕ)
    (out : Except ApiError k.Record × EditRows) : Prop where
  refused : Refused d out ↔ base = "" ∨ (∀ n, 1 ≤ n → n ≤ 50 → numbered base n ∈ k.slugs d) ∨
    ¬ k.Referable row d
  posted : ¬ Refused d out → ∃ n, 1 ≤ n ∧ n ≤ 50 ∧
    (∀ m, 1 ≤ m → m < n → numbered base m ∈ k.slugs d) ∧ numbered base n ∉ k.slugs d ∧
    checkSlug.{0} texts (numbered base n) = .ok ⟨⟩ ∧
    Posted k (k.under row (numbered base n) (ids (n - 1))) d out

/-- A POST that gives its slug: this one or none. -/
structure TakesSlug (texts : Texts) (k : Kind) (row : k.Record) (given : String) (d : Rows) (ids : ℕ → ℕ)
    (out : Except ApiError k.Record × EditRows) : Prop where
  refused : Refused d out ↔
    ¬ (checkSlug.{0} texts given = .ok ⟨⟩ ∧ given ∉ k.slugs d ∧ k.Referable row d)
  posted : ¬ Refused d out → Posted k (k.under row given (ids 0)) d out

/-- What a POST comes to. -/
structure SlugRules (texts : Texts) (k : Kind) (body : k.Input) (d : Rows) (ids : ℕ → ℕ)
    (out : Except ApiError k.Record × EditRows) : Prop where
  invalid : (∀ row, ¬ k.Valid texts body row) → Refused d out
  derived : ∀ row, k.Valid texts body row → k.givenSlug body = "" →
    DerivesSlug texts k row (texts.slugMake (k.englishName row)) d ids out
  typed : ∀ row, k.Valid texts body row → k.givenSlug body ≠ "" →
    TakesSlug texts k row (k.givenSlug body) d ids out

theorem adminCreate_invalid {texts : Texts} {k : Kind} {body : k.Input}
    (h : ∀ row, ¬ k.Valid texts body row) : ∃ e, adminCreate texts k body = Prog.throw e := by
  unfold adminCreate
  cases hreq : k.requireOnCreate body with
  | error e => exact ⟨_, rfl⟩
  | ok u =>
    cases happly : k.apply texts body k.fresh with
    | error e => exact ⟨_, rfl⟩
    | ok row => exact absurd ⟨hreq, happly⟩ (h row)

theorem adminCreate_valid {texts : Texts} {k : Kind} (hk : k ≠ .owner) {body : k.Input} {row : k.Record}
    (h : k.Valid texts body row) : ∃ arg, k.record arg = row ∧ k.Storable arg ∧
      adminCreate texts k body =
        Prog.check (resolveSlug texts (k.givenSlug body) (k.englishName row)) writeInvalid >>=
          fun p => insertWithSlug texts k arg p.1 p.2 := by
  obtain ⟨hproblems, hedit⟩ := Kind.apply_ok.mp h.applied
  obtain ⟨arg, harg, hstore⟩ := Kind.params_of_checked hproblems
  have hslug : k.slug row = some (k.givenSlug body) := by
    rw [← hedit]
    cases k with
    | owner => exact absurd rfl hk
    | _ => rfl
  refine ⟨arg, Kind.record_params harg, hstore, ?_⟩
  unfold adminCreate
  rw [h.required, h.applied]
  -- both of the first steps return, and the kinds left have a slug
  have hpure : ∀ {α β : Type} (a : α) (f : α → EditHandler β), (Prog.pure a : EditHandler α) >>= f = f a :=
    fun _ _ => rfl
  simp only [Prog.check, hpure, hslug, harg]
  show Prog.check (resolveSlug texts (k.givenSlug body) (k.englishName row)) writeInvalid >>= _ = _
  cases resolveSlug texts (k.givenSlug body) (k.englishName row) <;> rfl

theorem slugOfTry_numbered {fold : String → Option String} (hfold : Slug.KeepsAscii fold)
    (quote : String → String) {base : String} (h : Slug.Canonical base.toList) (n : ℕ) :
    slugOfTry (Slug.texts fold quote) base n = numbered base n ∧
      checkSlug.{0} (Slug.texts fold quote) (numbered base n) = .ok ⟨⟩ := by
  rw [slugOfTry, numbered]
  by_cases hn : 1 < n
  · obtain ⟨hmake, hcanonical⟩ := Slug.makeWithSuffix_canonical hfold h (Nat.ne_zero_of_lt hn)
    rw [if_pos hn, if_neg (Nat.not_le.mpr hn)]
    refine ⟨hmake, ?_⟩
    rw [← hmake]
    exact Slug.checkSlug_of_canonical hfold quote hcanonical
  · rw [if_neg hn, if_pos (Nat.not_lt.mp hn)]
    exact ⟨rfl, Slug.checkSlug_of_canonical hfold quote h⟩

/-- The loop's rounds, by the slugs they try. -/
theorem derivesSlug_of_looped {fold : String → Option String} (hfold : Slug.KeepsAscii fold)
    (quote : String → String) {k : Kind} {row : k.Record} {base : String}
    (h : Slug.Canonical base.toList) {d : Rows} {ids : ℕ → ℕ}
    {out : Except ApiError k.Record × EditRows}
    (hloop : Looped k row d (fun j => slugOfTry (Slug.texts fold quote) base (1 + j)) ids 49 out) :
    DerivesSlug (Slug.texts fold quote) k row base d ids out := by
  have hbase : base ≠ "" := by
    rintro rfl
    exact h.ne_nil rfl
  have htry : ∀ n, 1 ≤ n → slugOfTry (Slug.texts fold quote) base (1 + (n - 1)) = numbered base n := by
    intro n hn
    rw [Nat.add_sub_cancel' hn]
    exact (slugOfTry_numbered hfold quote h n).1
  rcases hloop with ⟨htaken, hout⟩ | ⟨j, hj, hbefore, hfree, hout⟩
  · constructor
    · refine iff_of_true hout (Or.inr (Or.inl (fun n h₁ h₅₀ => ?_)))
      rw [← htry n h₁]
      exact htaken (n - 1) (by omega)
    · exact fun hne => absurd hout hne
  · have hslug := (slugOfTry_numbered hfold quote h (1 + j)).1
    simp only [hslug] at hfree hout
    rcases hout with ⟨href, hposted⟩ | ⟨href, hrefused⟩
    · constructor
      · refine iff_of_false hposted.not_refused ?_
        rintro (hempty | hall | hnone)
        · exact hbase hempty
        · exact hfree (hall (1 + j) (by omega) (by omega))
        · exact hnone href
      · intro _
        refine ⟨1 + j, by omega, by omega, ?_, hfree, (slugOfTry_numbered hfold quote h (1 + j)).2, ?_⟩
        · intro m h₁ hm
          rw [← htry m h₁]
          exact hbefore (m - 1) (by omega)
        · rw [Nat.add_sub_cancel_left]
          exact hposted
    · exact ⟨iff_of_true hrefused (Or.inr (Or.inr href)), fun hne => absurd hrefused hne⟩

/-- **Slugs of new rows.**  For any rows, body and English name: a POST of a unit, a compound or an
area that gives no slug stores its row under the first of the base, the base and 2, … and the base and
50 that is not taken, and `checkSlug` takes that slug; it is refused, and nothing has changed, just when
there is no base, when all fifty are taken, or when what the row refers to is not there.  A slug that
was given is the one the row is stored under, or the POST is refused. -/
theorem slugs_derived {fold : String → Option String} (hfold : Slug.KeepsAscii fold)
    (quote : String → String) {k : Kind} (hk : k ≠ .owner) (body : k.Input) (d : Rows)
    {os : ℕ → Oracle} (hnew : ∀ n, k.find (os n).uuid d = none) (now : ℤ) :
    SlugRules (Slug.texts fold quote) k body d (fun n => (os n).uuid)
      (serve editPostgres now (adminCreate (Slug.texts fold quote) k body) os (d, ⟨⟩)) := by
  constructor
  · intro hinvalid
    obtain ⟨e, he⟩ := adminCreate_invalid hinvalid
    rw [he]
    exact ⟨⟨e, rfl⟩, rfl⟩
  · intro row hvalid hgiven
    obtain ⟨arg, rfl, hstore, hcreate⟩ := adminCreate_valid hk hvalid
    rw [hcreate, hgiven, resolveSlug, if_neg (not_not.mpr rfl)]
    by_cases hbase : (Slug.texts fold quote).slugMake (k.englishName (k.record arg)) = ""
    · rw [if_pos hbase]
      have hrefused : ∀ e, Refused d (serve editPostgres now (Prog.throw e : EditHandler k.Record) os
          (d, ⟨⟩)) := fun e => ⟨⟨e, rfl⟩, rfl⟩
      exact ⟨iff_of_true (hrefused _) (Or.inl hbase), fun hne => absurd (hrefused _) hne⟩
    · rw [if_neg hbase]
      have hcanonical := (Slug.make_canonical fold (k.englishName (k.record arg))).resolve_left hbase
      exact derivesSlug_of_looped hfold quote hcanonical
        (looped_insertFrom _ _ now hk hstore 49 1 os hnew)
  · intro row hvalid hgiven
    obtain ⟨arg, rfl, hstore, hcreate⟩ := adminCreate_valid hk hvalid
    rw [hcreate, resolveSlug, if_pos hgiven]
    cases hcheck : checkSlug.{0} (Slug.texts fold quote) (k.givenSlug body) with
    | error e =>
      have hrefused : Refused d (serve editPostgres now
          (Prog.throw (writeInvalid e) : EditHandler k.Record) os (d, ⟨⟩)) := ⟨⟨_, rfl⟩, rfl⟩
      refine ⟨iff_of_true hrefused (fun h => ?_), fun hne => absurd hrefused hne⟩
      rw [hcheck] at h
      cases h.1
    | ok u =>
      rcases insertWithSlug_explicit (Slug.texts fold quote) (k.givenSlug body) now hk hstore (hnew 0)
        with ⟨hfree, href, hposted⟩ | ⟨hnot, hrefused⟩
      · exact ⟨iff_of_false hposted.not_refused (fun h => h ⟨hcheck, hfree, href⟩), fun _ => hposted⟩
      · exact ⟨iff_of_true hrefused (fun h => hnot h.2), fun hne => absurd hrefused hne⟩

/-! ### A name that is taken -/

/-- An area with the name of the one that is there. -/
def sameName : AreaInput :=
  { nameAr := .value "سيدي عبد الرحمن", nameEn := .value "Sidi Abdel  Rahman",
    region := .value (.known .northCoast) }

/-- It is stored under the second slug. -/
theorem slugs_derived_again :
    (serve editPostgres 0 (adminCreate (Slug.texts some id) .area sameName)
      (fun n => oracleAt (n + 7) 0) (coast, ⟨⟩)).1.map AreaRecord.slug = .ok "sidi-abdel-rahman-2" := by
  have hnew : ∀ n, Kind.find .area (oracleAt (n + 7) 0).uuid coast = none := by
    intro n
    have hone : ∀ a ∈ coast.2.areas.rows, a.id = 1 := by
      decide
    show (coast.2.areas.find? (n + 7)).map AreaRow.record = none
    refine Option.map_eq_none_iff.mpr (Option.eq_none_iff_forall_ne_some.mpr (fun a ha => ?_))
    obtain ⟨hmem, hid⟩ := Table.mem_of_find? ha
    rw [hone a hmem] at hid
    omega
  have hrules := slugs_derived (show Slug.KeepsAscii some from fun _ _ => rfl) id (k := .area) (by decide)
    sameName coast hnew 0
  generalize serve editPostgres 0 _ _ (coast, ⟨⟩) = out at hrules ⊢
  have hvalid : Kind.Valid (Slug.texts some id) .area sameName (sameName.edit AreaRecord.fresh) :=
    ⟨rfl, Kind.apply_ok.mpr ⟨by decide +kernel, rfl⟩⟩
  have hbase : (Slug.texts some id).slugMake (Kind.englishName .area (sameName.edit AreaRecord.fresh))
      = "sidi-abdel-rahman" := by
    decide +kernel
  have hderived := hrules.derived _ hvalid rfl
  rw [hbase] at hderived
  have htwo : numbered "sidi-abdel-rahman" 2 ∉ Kind.slugs .area coast := by
    decide +kernel
  have hnot : ¬ Refused coast out := by
    rw [hderived.refused]
    rintro (hempty | hall | href)
    · exact absurd hempty (by decide)
    · exact htwo (hall 2 (by omega) (by omega))
    · exact href (fun p hp => absurd hp List.not_mem_nil)
  obtain ⟨n, h₁, -, hbefore, hfree, -, hposted⟩ := hderived.posted hnot
  have hn : n = 2 := by
    have hne : n ≠ 1 := by
      rintro rfl
      exact hfree (by decide +kernel)
    have hle : ¬ 2 < n := fun hlt => htwo (hbefore 2 (by omega) hlt)
    omega
  subst hn
  rw [hposted.answer]
  exact congrArg Except.ok (by decide +kernel)

end Sahel

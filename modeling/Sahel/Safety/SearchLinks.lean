import Sahel.Web.SearchParams

/-!
# Search links

A link to the search carries its filters in the query string, and a page.

* `queryOf_filtersToQuery`: what the query string says of each key;
* `InFull` is what a value must be for its number to be carried;
* **`search_links_iff`**: a link keeps the search exactly when all numbers in it are.
-/

set_option autoImplicit false

namespace Sahel

namespace Web

/-! ### What is written -/

/-- The entries that have a value. -/
def entries (l : List (String × Option String)) : SearchParams :=
  l.filterMap (fun e => e.2.map (fun v => (e.1, v)))

theorem mem_entries {l : List (String × Option String)} {p : String × String} :
    p ∈ entries l ↔ (p.1, some p.2) ∈ l := by
  rw [entries, List.mem_filterMap]
  constructor
  · rintro ⟨⟨key, value⟩, he, hp⟩
    obtain ⟨v, rfl, rfl⟩ := Option.map_eq_some_iff.mp hp
    exact he
  · intro h
    exact ⟨_, h, rfl⟩

theorem set_new {q : SearchParams} {key : String} (h : ∀ p ∈ q, p.1 ≠ key) (value : String) :
    set q key value = q ++ [(key, value)] := by
  have hnone : ¬ q.any (fun p => p.1 == key) = true := by
    rw [List.any_eq_true]
    rintro ⟨p, hp, heq⟩
    exact h p hp (beq_iff_eq.mp heq)
  rw [set, if_neg hnone]

/-- **The loop** writes the entries, one behind the other. -/
theorem foldl_setShown (l : List (String × Option String)) (q : SearchParams)
    (hnodup : (l.map Prod.fst).Nodup) (hnew : ∀ e ∈ l, ∀ p ∈ q, p.1 ≠ e.1) :
    l.foldl setShown q = q ++ entries l := by
  induction l generalizing q with
  | nil => exact (List.append_nil q).symm
  | cons e l ih =>
    obtain ⟨key, value⟩ := e
    obtain ⟨hkey, hrest⟩ := List.nodup_cons.mp hnodup
    obtain ⟨hfirst, hothers⟩ := List.forall_mem_cons.mp hnew
    rw [List.foldl_cons]
    cases value with
    | none => exact ih q hrest hothers
    | some v =>
      have hnext : ∀ e ∈ l, ∀ p ∈ q ++ [(key, v)], p.1 ≠ e.1 := by
        intro e he p hp heq
        rcases List.mem_append.mp hp with hp | hp
        · exact hothers e he p hp heq
        · rw [List.mem_singleton.mp hp] at heq
          exact hkey (List.mem_map.mpr ⟨e, he, heq.symm⟩)
      show l.foldl setShown (set q key v) = q ++ entries ((key, some v) :: l)
      rw [set_new hfirst, ih _ hrest hnext, List.append_assoc]
      rfl

/-- The text of a page other than the first. -/
def pageShown (page : ℕ) : Option String := if 1 < page then some (numberText page) else none

/-- All that a link can carry. -/
def carried (f : Filters) (page : ℕ) : List (String × Option String) :=
  shown f ++ [("page", pageShown page)]

theorem carried_nodup (f : Filters) (page : ℕ) : ((carried f page).map Prod.fst).Nodup := by
  show ["area", "compound", "type", "view", "guests", "bedrooms", "maxSeaDistance", "sort", "page"].Nodup
  decide

theorem filtersToQuery_eq (f : Filters) (page : ℕ) :
    filtersToQuery f page = FormUrlencoded.serialize (entries (carried f page)) := by
  have hloop := foldl_setShown (carried f page) [] (carried_nodup f page) (fun _ _ p hp => by cases hp)
  rw [List.nil_append, carried, List.foldl_append] at hloop
  rw [filtersToQuery, carried, ← hloop, pageShown]
  split_ifs with hpage
  · rfl
  · rfl

/-! ### What is read back -/

theorem urlSearchParams_serialize (q : SearchParams) : urlSearchParams (FormUrlencoded.serialize q) = q := by
  rw [urlSearchParams, if_neg (FormUrlencoded.head_serialize q), FormUrlencoded.parse_serialize]

/-- Among entries of different keys, each is found. -/
theorem fromEntries_entries {l : List (String × Option String)} (hnodup : (l.map Prod.fst).Nodup)
    {key : String} {value : Option String} (h : (key, value) ∈ l) :
    fromEntries (entries l) key = value.map .one := by
  have hunique : ∀ v, (key, some v) ∈ l → some v = value := by
    intro v hv
    exact (Prod.mk.inj (List.inj_on_of_nodup_map hnodup hv h rfl)).2
  rw [fromEntries]
  cases hfind : (entries l).reverse.find? (fun p => p.1 == key) with
  | none =>
    cases value with
    | none => rfl
    | some v =>
      have hmem : (key, v) ∈ (entries l).reverse := List.mem_reverse.mpr (mem_entries.mpr h)
      exact absurd (beq_self_eq_true key) (by simpa using List.find?_eq_none.mp hfind _ hmem)
  | some p =>
    have hp := mem_entries.mp (List.mem_reverse.mp (List.mem_of_find?_eq_some hfind))
    have hkey : p.1 = key := by simpa using List.find?_some hfind
    rw [hkey] at hp
    rw [← hunique _ hp]
    rfl

/-- **What a link says of a key** is what was written for it. -/
theorem queryOf_filtersToQuery {f : Filters} {page : ℕ} {key : String} {value : Option String}
    (h : (key, value) ∈ carried f page) : queryOf (filtersToQuery f page) key = value.map .one := by
  rw [queryOf, filtersToQuery_eq, urlSearchParams_serialize, fromEntries_entries (carried_nodup f page) h]

/-! ### Texts -/

theorem trim_first (v : Option RawValue) : trim (first v) = first v := by
  have hempty : trim "" = "" := rfl
  match v with
  | none => exact hempty
  | some (.one s) => exact trim_trim s
  | some (.many []) => exact hempty
  | some (.many (s :: _)) => exact trim_trim s

/-- A trimmed text is carried. -/
theorem first_textShown {t : String} (h : trim t = t) : first ((textShown t).map .one) = t := by
  by_cases hempty : t = ""
  · rw [textShown, if_pos hempty, hempty]
    rfl
  · rw [textShown, if_neg hempty]
    exact h

/-- So is a known one. -/
theorem oneOf_textShown (v : Option RawValue) (allowed : List String) :
    oneOf (first ((textShown (oneOf (first v) allowed)).map .one)) allowed = oneOf (first v) allowed := by
  by_cases hknown : allowed.contains (first v) = true
  · have hself : oneOf (first v) allowed = first v := if_pos hknown
    rw [hself, first_textShown (trim_first v), hself]
  · have hnone : oneOf (first v) allowed = "" := if_neg hknown
    rw [hnone]
    show (if allowed.contains "" = true then "" else "") = ""
    rw [ite_self]

/-! ### Numbers -/

/-- A value whose number is written in full: the digits it begins with stand for less than what is
rounded to 10²¹; or there is no such number, with a minus in front or too many digits. -/
def InFull (v : Option RawValue) : Prop :=
  digitsValue (leading (first v)).2 < 10 ^ 21 - 2 ^ 16 ∨ (leading (first v)).1 = true ∨
    Binary64.overflow ≤ digitsValue (leading (first v)).2

instance (v : Option RawValue) : Decidable (InFull v) :=
  inferInstanceAs (Decidable (_ ∨ _ ∨ _))

/-- What is read as positive is a finite double. -/
theorem positive_double (s : String) :
    Binary64.roundNat (positive s) = positive s ∧ positive s < Binary64.limit := by
  rw [positive_eq]
  split_ifs with hnone
  · exact ⟨Binary64.roundNat_eq (Nat.zero_le _), Nat.two_pow_pos _⟩
  · have hlargest := Binary64.roundNat_of_lt_overflow (not_le.mp (not_or.mp hnone).2)
    exact ⟨Binary64.roundNat_roundNat _, lt_of_le_of_lt hlargest Binary64.largest_lt_limit⟩

/-- **Which values are below 10²¹.** -/
theorem positive_lt_iff (v : Option RawValue) : positive (first v) < 10 ^ 21 ↔ InFull v := by
  obtain ⟨hbelow, hhalf⟩ : Binary64.roundNat (10 ^ 21 - 2 ^ 16 - 1) < 10 ^ 21 ∧
      Binary64.roundNat (10 ^ 21 - 2 ^ 16) = 10 ^ 21 := by decide +kernel
  rw [positive_eq, InFull]
  split_ifs with hnone
  · exact iff_of_true (by decide) (Or.inr hnone)
  · constructor
    · intro hlt
      refine Or.inl (not_le.mp (fun hle => ?_))
      have hround := Binary64.roundNat_mono hle
      omega
    · intro hfull
      have hlt := hfull.resolve_right hnone
      have hround := Binary64.roundNat_mono (Nat.le_sub_one_of_lt hlt)
      exact lt_of_le_of_lt hround hbelow

/-- A number is carried below 10²¹. -/
theorem positive_numberShown_iff (s : String) :
    positive (first ((numberShown (positive s)).map .one)) = positive s ↔ positive s < 10 ^ 21 := by
  obtain ⟨hdouble, hfinite⟩ := positive_double s
  rcases Nat.eq_zero_or_pos (positive s) with hzero | hpos
  · rw [hzero]
    exact iff_of_true rfl (by decide)
  · rw [numberShown, if_neg (Nat.pos_iff_ne_zero.mp hpos)]
    show positive (trim (numberText (positive s))) = positive s ↔ _
    rw [trim_numberText, positive_numberText_iff hpos hdouble hfinite]

/-- So is a page. -/
theorem pageOf_pageShown_iff (s : String) :
    pageOf (first ((pageShown (pageOf s)).map .one)) = pageOf s ↔ positive s < 10 ^ 21 := by
  obtain ⟨hdouble, hfinite⟩ := positive_double s
  by_cases hone : positive s ≤ 1
  · have hpage : pageOf s = 1 := by
      rw [pageOf]
      split_ifs <;> omega
    rw [hpage]
    exact iff_of_true rfl (lt_of_le_of_lt hone (by decide))
  · have hpage : pageOf s = positive s := if_neg (by omega)
    rw [hpage, pageShown, if_pos (not_le.mp hone)]
    show pageOf (trim (numberText (positive s))) = positive s ↔ _
    rw [trim_numberText, ← positive_numberText_iff (by omega) hdouble hfinite, pageOf]
    split_ifs <;> omega

/-! ### Links that keep the search -/

/-- **A link keeps the search** exactly when its numbers are written in full: the filters that a query
was read as, and a page that one was. -/
theorem search_links_iff (raw paged : Raw) :
    parseSearchParams (queryOf (filtersToQuery (parseSearchParams raw) (parseSearchParams paged).page))
        = { parseSearchParams raw with page := (parseSearchParams paged).page } ↔
      InFull (raw "guests") ∧ InFull (raw "bedrooms") ∧ InFull (raw "maxSeaDistance") ∧
        InFull (paged "page") := by
  have hcarried : ∀ e ∈ carried (parseSearchParams raw) (parseSearchParams paged).page,
      queryOf (filtersToQuery (parseSearchParams raw) (parseSearchParams paged).page) e.1
        = e.2.map .one := fun e he => queryOf_filtersToQuery he
  obtain ⟨harea, hcompound, htype, hview, hguests, hbedrooms, hdistance, hsort, hpage, -⟩ :
      _ ∧ _ ∧ _ ∧ _ ∧ _ ∧ _ ∧ _ ∧ _ ∧ _ ∧ ∀ e ∈ ([] : List (String × Option String)), _ := by
    simpa only [carried, shown, List.cons_append, List.nil_append, List.forall_mem_cons] using hcarried
  generalize queryOf _ = q at harea hcompound htype hview hguests hbedrooms hdistance hsort hpage ⊢
  rw [parseSearchParams, harea, hcompound, htype, hview, hguests, hbedrooms, hdistance, hsort, hpage,
    Filters.mk.injEq]
  constructor
  · rintro ⟨-, -, -, -, hg, hb, hd, -, hp⟩
    exact ⟨(positive_lt_iff _).mp ((positive_numberShown_iff _).mp hg),
      (positive_lt_iff _).mp ((positive_numberShown_iff _).mp hb),
      (positive_lt_iff _).mp ((positive_numberShown_iff _).mp hd),
      (positive_lt_iff _).mp ((pageOf_pageShown_iff _).mp hp)⟩
  · rintro ⟨hg, hb, hd, hp⟩
    exact ⟨first_textShown (trim_first _), first_textShown (trim_first _), oneOf_textShown _ _,
      oneOf_textShown _ _, (positive_numberShown_iff _).mpr ((positive_lt_iff _).mpr hg),
      (positive_numberShown_iff _).mpr ((positive_lt_iff _).mpr hb),
      (positive_numberShown_iff _).mpr ((positive_lt_iff _).mpr hd), oneOf_textShown _ _,
      (pageOf_pageShown_iff _).mpr ((positive_lt_iff _).mpr hp)⟩

/-- Twenty-one zeros: the link says `1e+21`, which is read as 1. -/
theorem search_links_lose : ¬ ∀ raw paged : Raw,
    parseSearchParams (queryOf (filtersToQuery (parseSearchParams raw) (parseSearchParams paged).page))
      = { parseSearchParams raw with page := (parseSearchParams paged).page } := by
  intro h
  have hguests := congrArg Filters.guests
    (h (fromEntries [("guests", "1000000000000000000000")]) (fun _ => none))
  exact absurd hguests (by decide +kernel)

end Web

end Sahel

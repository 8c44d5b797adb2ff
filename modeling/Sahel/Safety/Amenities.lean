import Sahel.Web.Form
import Sahel.Http.AdminInput

/-!
# Amenities through a form

The API keeps a list of amenities that its normaliser left (`normalizeAmenities`), the forms show it
joined with the Arabic comma and read it back with `list`.

* `list_shown`: a list of items that hold no separator and that `trim` leaves alone comes back;
* **`amenities_kept_iff`**: of the lists the API stores, those without a separator in an item, and
  without a byte order mark at either end of one, come back, and no others.

The two sides trim differently: Go takes off U+0085 and leaves U+FEFF, JavaScript the other way
round.
-/

set_option autoImplicit false

namespace Sahel

open Strip

namespace Web

/-- An item that a form keeps: no separator in it, no byte order mark at its ends. -/
def Plain (item : String) : Prop :=
  (∀ c ∈ item.toList, isSeparator c = false) ∧
    item.toList.head? ≠ some '\uFEFF' ∧ item.toList.getLast? ≠ some '\uFEFF'

/-- What JavaScript takes for white space and Go does not. -/
theorem isBlank_iff {c : Char} (h : isSpace c = false) : isBlank c = true ↔ c = '\uFEFF' := by
  have hchar : c = '\uFEFF' ↔ c.toNat = 0xFEFF := by
    constructor
    · rintro rfl
      rfl
    · intro hn
      exact Char.toNat_inj.mp hn
  rw [hchar]
  simp only [isSpace, isBlank, Bool.or_eq_false_iff, Bool.and_eq_false_iff, beq_eq_false_iff_ne,
    decide_eq_false_iff_not, Bool.or_eq_true, Bool.and_eq_true, beq_iff_eq, decide_eq_true_eq]
    at h ⊢
  omega

/-- Of the texts Go has trimmed, JavaScript trims those with a byte order mark at an end. -/
theorem trim_stored {item : String} (h : trimSpace item = item) :
    trim item = item ↔ item.toList.head? ≠ some '\uFEFF' ∧ item.toList.getLast? ≠ some '\uFEFF' := by
  have hgo : strip isSpace item.toList = item.toList := by
    have hlist := congrArg String.toList h
    rwa [trimSpace_eq, String.toList_ofList] at hlist
  obtain ⟨hfirst, hlast⟩ := strip_eq_self_iff.mp hgo
  have hend : ∀ o : Option Char, (∀ c ∈ o, isSpace c = false) →
      ((∀ c ∈ o, isBlank c = false) ↔ o ≠ some '\uFEFF') := by
    intro o ho
    cases o with
    | none => simp
    | some c =>
      have hc := isBlank_iff (ho c rfl)
      rw [← not_iff_not, not_not, Option.some_inj, ← hc]
      simp
  rw [trim_eq_self_iff, strip_eq_self_iff, hend _ hfirst, hend _ hlast]

/-! ### There and back -/

theorem list_untouched (fd : FormData) (amenities : List String) :
    list (untouched fd amenities) "amenities"
      = (((trim (shownAmenities amenities)).toList.splitOnP isSeparator).map
          (fun s => trim (String.ofList s))).filter (fun s => s != "") := by
  rw [list, text, untouched, Function.update_self, Option.getD_some]

/-- The text shown has nothing to trim when its items have not. -/
theorem trim_shown {amenities : List String} (h : ∀ a ∈ amenities, trim a = a ∧ a ≠ "") :
    trim (shownAmenities amenities) = shownAmenities amenities := by
  rw [trim_eq_self_iff, shownAmenities, String.toList_intercalate, strip_eq_self_iff]
  have hlists : ∀ l ∈ amenities.map String.toList, l ≠ [] ∧ strip isBlank l = l := by
    intro l hl
    obtain ⟨a, ha, rfl⟩ := List.mem_map.mp hl
    obtain ⟨htrim, hne⟩ := h a ha
    exact ⟨fun hnil => hne (String.toList_eq_nil_iff.mp hnil), trim_eq_self_iff.mp htrim⟩
  have hnil : [] ∉ amenities.map String.toList := fun hmem => (hlists [] hmem).1 rfl
  constructor
  · cases hls : amenities.map String.toList with
    | nil => simp
    | cons first rest =>
      rw [hls] at hlists
      obtain ⟨hne, hstrip⟩ := hlists first List.mem_cons_self
      rw [head?_intercalate hne]
      exact (strip_eq_self_iff.mp hstrip).1
  · intro c hc
    obtain ⟨l, hl, hcl⟩ := getLast?_intercalate hnil hc
    exact (strip_eq_self_iff.mp (hlists l hl).2).2 c hcl

/-- **There and back.** -/
theorem list_shown (fd : FormData) {amenities : List String}
    (h : ∀ a ∈ amenities, trim a = a ∧ a ≠ "")
    (hsep : ∀ a ∈ amenities, ∀ c ∈ a.toList, isSeparator c = false) :
    list (untouched fd amenities) "amenities" = amenities := by
  rw [list_untouched, trim_shown h]
  cases amenities with
  | nil => rfl
  | cons first rest =>
    obtain ⟨hfirst, hrest⟩ := List.forall_mem_cons.mp h
    obtain ⟨hsep₁, hsep₂⟩ := List.forall_mem_cons.mp hsep
    have hcomma : "، ".toList = ['،', ' '] := rfl
    have hpieces : (shownAmenities (first :: rest)).toList.splitOnP isSeparator
        = first.toList :: (rest.map String.toList).map (fun l => [' '] ++ l) := by
      rw [shownAmenities, String.toList_intercalate, hcomma, List.map_cons]
      refine splitOnP_intercalate rfl (by simp [isSeparator]) _ _ hsep₁ ?_
      intro l hl
      obtain ⟨a, ha, rfl⟩ := List.mem_map.mp hl
      exact hsep₂ a ha
    have hspace : ∀ a ∈ rest, trim (String.ofList ([' '] ++ a.toList)) = a := by
      intro a ha
      show String.ofList (strip isBlank (String.ofList (' ' :: a.toList)).toList) = a
      rw [String.toList_ofList, strip_cons rfl]
      exact (hrest a ha).1
    have hback : ((rest.map String.toList).map (fun l => [' '] ++ l)).map
        (fun s => trim (String.ofList s)) = rest := by
      rw [List.map_map, List.map_map]
      exact (List.map_congr_left hspace).trans (List.map_id rest)
    rw [hpieces, List.map_cons, String.ofList_toList, hfirst.1, hback]
    refine List.filter_eq_self.mpr ?_
    intro a ha
    exact bne_iff_ne.mpr (h a ha).2

/-- What comes back holds no separator and is trimmed. -/
theorem list_tidy {fd : FormData} {key item : String} (h : item ∈ list fd key) :
    trim item = item ∧ ∀ c ∈ item.toList, isSeparator c = false := by
  obtain ⟨piece, hpiece, rfl⟩ := List.mem_map.mp (List.mem_filter.mp h).1
  refine ⟨trim_trim _, ?_⟩
  intro c hc
  rw [trim, String.toList_ofList, String.toList_ofList] at hc
  exact splitOnP_pieces hpiece c (mem_of_mem_strip hc)

/-- **Which lists a form keeps.**  Saved untouched, the amenities of a unit or compound come back as
they are stored exactly when each of them is plain. -/
theorem amenities_kept_iff (fd : FormData) (amenities : List String) :
    list (untouched fd (normalizeAmenities amenities)) "amenities" = normalizeAmenities amenities ↔
      ∀ a ∈ normalizeAmenities amenities, Plain a := by
  have htidy := (normalizeAmenities_tidy amenities).1
  constructor
  · intro hback a ha
    obtain ⟨htrim, hsep⟩ := list_tidy (hback.symm ▸ ha)
    exact ⟨hsep, (trim_stored (htidy a ha).1).mp htrim⟩
  · intro hplain
    refine list_shown fd ?_ (fun a ha => (hplain a ha).1)
    intro a ha
    exact ⟨(trim_stored (htidy a ha).1).mpr (hplain a ha).2, (htidy a ha).2⟩

/-- **An amenity with a comma comes back as two.** -/
theorem amenities_split :
    ¬ ∀ (fd : FormData) (amenities : List String),
      list (untouched fd (normalizeAmenities amenities)) "amenities"
        = normalizeAmenities amenities := by
  intro h
  have hstored : normalizeAmenities ["pool, heated"] = ["pool, heated"] := by decide +kernel
  have hback := h (fun _ => none) ["pool, heated"]
  rw [hstored] at hback
  have hitem : "pool, heated" ∈ list (untouched (fun _ => none) ["pool, heated"]) "amenities" := by
    rw [hback]
    exact List.mem_cons_self
  exact absurd ((list_tidy hitem).2 ',' (by decide)) (by decide)

end Web

end Sahel

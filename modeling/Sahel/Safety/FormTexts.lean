import Sahel.Safety.Amenities
import Sahel.Web.UnitForm

/-!
# Texts through a form

What becomes of the texts of a unit when its form is saved untouched: a browser sends them by the kind
of their field, JavaScript trims them, and the API trims them again.

* `line_back_iff`, `area_back_iff`: which texts of a single-line field, and of a text area, are stored
  as they were;
* **`amenities_back_iff`**: and which lists of amenities.
-/

set_option autoImplicit false

namespace Sahel

open Strip

namespace Web

/-- No byte order mark at an end. -/
def Unmarked (s : String) : Prop :=
  s.toList.head? ≠ some '\uFEFF' ∧ s.toList.getLast? ≠ some '\uFEFF'

def OneLine (s : String) : Prop := ∀ c ∈ s.toList, c ≠ '\n' ∧ c ≠ '\r'

/-- Carriage returns and line feeds come in pairs. -/
def Paired : List Char → Prop
  | '\r' :: '\n' :: s => Paired s
  | c :: s => c ≠ '\r' ∧ c ≠ '\n' ∧ Paired s
  | [] => True

/-! ### Trimming twice -/

theorem toList_trimmed (v : String) :
    (trimSpace (trim v)).toList = strip isSpace (strip isBlank v.toList) := by
  rw [trimSpace_eq, String.toList_ofList, trim, String.toList_ofList]

theorem trimmed_part (v : String) : (trimSpace (trim v)).toList <:+: v.toList := by
  rw [toList_trimmed]
  exact (strip_part _ _).trans (strip_part _ _)

/-- A stored text is trimmed to itself unless JavaScript takes a mark off. -/
theorem trimmed_back_iff {s : String} (hs : trimSpace s = s) : trimSpace (trim s) = s ↔ Unmarked s := by
  rw [Unmarked, ← trim_stored hs]
  constructor
  · intro h
    have hinner : s.toList <:+: (trim s).toList := by
      have hback := congrArg String.toList h
      rw [trimSpace_eq, String.toList_ofList] at hback
      rw [← hback]
      exact strip_part _ _
    have houter : (trim s).toList <:+: s.toList := by
      rw [trim, String.toList_ofList]
      exact strip_part _ _
    exact String.toList_inj.mp (houter.eq_of_length_le hinner.length_le)
  · intro h
    rw [h, hs]

/-! ### Single-line fields -/

theorem toList_inputValue (s : String) :
    (inputValue s).toList = s.toList.filter (fun c => c != '\n' && c != '\r') := by
  rw [inputValue, String.toList_ofList]

theorem inputValue_eq_iff {s : String} : inputValue s = s ↔ OneLine s := by
  rw [← String.toList_inj, toList_inputValue, List.filter_eq_self]
  simp only [Bool.and_eq_true, bne_iff_ne, OneLine]

theorem line_back_iff {s : String} (hs : trimSpace s = s) :
    trimSpace (trim (inputValue s)) = s ↔ OneLine s ∧ Unmarked s := by
  constructor
  · intro h
    have hlong : s.toList.length ≤ (inputValue s).toList.length := by
      have hinfix := trimmed_part (inputValue s)
      rw [h] at hinfix
      exact hinfix.length_le
    have hsub : (inputValue s).toList.Sublist s.toList := by
      rw [toList_inputValue]
      exact List.filter_sublist
    have hsame : inputValue s = s := String.toList_inj.mp (hsub.eq_of_length_le hlong)
    rw [hsame] at h
    exact ⟨inputValue_eq_iff.mp hsame, (trimmed_back_iff hs).mp h⟩
  · intro h
    rw [inputValue_eq_iff.mpr h.1]
    exact (trimmed_back_iff hs).mpr h.2

/-! ### Text areas -/

theorem paired_cons {c : Char} {s : List Char} (h : ¬ (c = '\r' ∧ s.head? = some '\n')) :
    Paired (c :: s) ↔ c ≠ '\r' ∧ c ≠ '\n' ∧ Paired s := by
  rw [Paired]
  intro t hc hs
  exact h ⟨hc, by rw [hs]; rfl⟩

theorem lineFeeds_plain (s : List Char) : '\r' ∉ lineFeeds s := by
  induction s using lineFeeds.induct with
  | case1 s ih => simpa [lineFeeds] using ih
  | case2 s hs ih => simpa [lineFeeds, hs] using ih
  | case3 c s hpair hc ih =>
    rw [lineFeeds]
    · exact List.not_mem_cons_of_ne_of_not_mem (fun h => hc h.symm) ih
    · exact hpair
    · exact hc
  | case4 => exact List.not_mem_nil

/-- How a text area's characters are sent. -/
theorem paired_sent {l : List Char} (h : '\r' ∉ l) :
    Paired (l.flatMap (fun c => if c = '\n' then ['\r', '\n'] else [c])) := by
  induction l with
  | nil => trivial
  | cons c l ih =>
    obtain ⟨hc, hl⟩ := List.ne_and_not_mem_of_not_mem_cons h
    rw [List.flatMap_cons]
    by_cases hfeed : c = '\n'
    · rw [if_pos hfeed]
      exact ih hl
    · rw [if_neg hfeed]
      exact (paired_cons (fun hpair => hc hpair.1.symm)).mpr ⟨fun heq => hc heq.symm, hfeed, ih hl⟩

theorem sent_of_paired (s : List Char) (h : Paired s) :
    (lineFeeds s).flatMap (fun c => if c = '\n' then ['\r', '\n'] else [c]) = s := by
  induction s using lineFeeds.induct with
  | case1 s ih =>
    rw [lineFeeds, List.flatMap_cons, ih h]
    rfl
  | case2 s hs ih =>
    have hnot : ¬ ('\r' = '\r' ∧ s.head? = some '\n') := by
      intro hboth
      obtain ⟨t, rfl⟩ := List.head?_eq_some_iff.mp hboth.2
      exact hs t rfl
    exact absurd rfl ((paired_cons hnot).mp h).1
  | case3 c s hpair hc ih =>
    have hnot : ¬ (c = '\r' ∧ s.head? = some '\n') := fun hboth => hc hboth.1
    obtain ⟨-, hfeed, hs⟩ := (paired_cons hnot).mp h
    rw [lineFeeds, List.flatMap_cons, if_neg hfeed, ih hs]
    · rfl
    · exact hpair
    · exact hc
  | case4 => rfl

theorem areaValue_of_paired {s : String} (h : Paired s.toList) : areaValue s = s := by
  rw [areaValue, sent_of_paired _ h, String.ofList_toList]

theorem paired_areaValue (s : String) : Paired (areaValue s).toList := by
  rw [areaValue, String.toList_ofList]
  exact paired_sent (lineFeeds_plain _)

/-- A cut between pairs, at its left end. -/
theorem paired_of_append_left (a : List Char) {t : List Char} (h : Paired (a ++ t))
    (ht : t.head? ≠ some '\n') : Paired t := by
  induction a using Paired.induct with
  | case1 a ih => exact ih h
  | case2 c a hpair ih =>
    have hnot : ¬ (c = '\r' ∧ (a ++ t).head? = some '\n') := by
      intro hboth
      obtain ⟨hc, hhead⟩ := hboth
      cases a with
      | nil => exact ht hhead
      | cons b a => exact hpair a hc (congrArg (· :: a) (Option.some.inj hhead))
    exact ih ((paired_cons hnot).mp h).2.2
  | case3 => exact h

/-- And at its right end. -/
theorem paired_of_append_right {t : List Char} (b : List Char) (h : Paired (t ++ b))
    (ht : t.getLast? ≠ some '\r') : Paired t := by
  induction t using Paired.induct with
  | case1 t ih =>
    refine ih h ?_
    cases t with
    | nil => simp
    | cons c t => simpa using ht
  | case2 c t hpair ih =>
    have hnot : ¬ (c = '\r' ∧ (t ++ b).head? = some '\n') := by
      intro hboth
      obtain ⟨hc, hhead⟩ := hboth
      cases t with
      | nil => exact ht (congrArg some hc)
      | cons d t => exact hpair t hc (congrArg (· :: t) (Option.some.inj hhead))
    obtain ⟨hreturn, hfeed, hrest⟩ := (paired_cons hnot).mp h
    have hlast : t.getLast? ≠ some '\r' := by
      cases t with
      | nil => simp
      | cons d t => simpa using ht
    refine (paired_cons (fun hboth => hreturn hboth.1)).mpr ⟨hreturn, hfeed, ih hrest hlast⟩
  | case3 => trivial

theorem area_back_iff {s : String} (hs : trimSpace s = s) :
    trimSpace (trim (areaValue s)) = s ↔ Paired s.toList ∧ Unmarked s := by
  constructor
  · intro h
    obtain ⟨a, b, hcut⟩ := trimmed_part (areaValue s)
    rw [h] at hcut
    have hends : strip isSpace s.toList = s.toList := by
      have hlist := congrArg String.toList hs
      rwa [trimSpace_eq, String.toList_ofList] at hlist
    obtain ⟨hfirst, hlast⟩ := strip_eq_self_iff.mp hends
    have hpaired : Paired s.toList := by
      cases hlist : s.toList with
      | nil => trivial
      | cons c rest =>
        have hfeed : (s.toList ++ b).head? ≠ some '\n' := by
          intro hhead
          rw [hlist] at hfirst hhead
          have hc : c = '\n' := Option.some.inj hhead
          exact absurd (hfirst c rfl) (by rw [hc]; decide)
        have hwhole := paired_areaValue s
        rw [← hcut, List.append_assoc] at hwhole
        rw [← hlist]
        exact paired_of_append_right b (paired_of_append_left a hwhole hfeed)
          (fun hreturn => absurd (hlast _ hreturn) (by decide))
    rw [areaValue_of_paired hpaired] at h
    exact ⟨hpaired, (trimmed_back_iff hs).mp h⟩
  · intro h
    rw [areaValue_of_paired h.1]
    exact (trimmed_back_iff hs).mpr h.2

/-- A text that may be null. -/
theorem nullArea_back_iff {s : Option String} (hs : blankToNil s = s) :
    blankToNil (some (trim (areaValue (s.getD "")))) = s ↔ ∀ t ∈ s, Paired t.toList ∧ Unmarked t := by
  cases s with
  | none =>
    have hblank : blankToNil (some (trim (areaValue ""))) = none := by decide
    simp [hblank]
  | some t =>
    rw [blankToNil] at hs
    split_ifs at hs with hblank
    have hstored : trimSpace t = t := Option.some.inj hs
    have hne : t ≠ "" := fun h => hblank (hstored.trans h)
    rw [Option.getD_some, blankToNil]
    constructor
    · intro h u hu
      obtain rfl := Option.some.inj hu
      split_ifs at h
      exact (area_back_iff hstored).mp (Option.some.inj h)
    · intro h
      have hback := (area_back_iff hstored).mpr (h t rfl)
      rw [hback, if_neg hne]

/-! ### Amenities -/

theorem mem_normalizeAmenities {l : List String} {a : String} (h : a ∈ normalizeAmenities l) :
    ∃ b ∈ l, trimSpace b = a := by
  have hstep : ∀ (l out : List String), a ∈ l.foldl addAmenity out → a ∈ out ∨ ∃ b ∈ l, trimSpace b = a := by
    intro l
    induction l with
    | nil => exact fun out h => Or.inl h
    | cons b l ih =>
      intro out h
      rcases ih _ h with hout | ⟨b', hb', rfl⟩
      · rw [addAmenity] at hout
        split_ifs at hout
        · exact Or.inl hout
        · rcases List.mem_append.mp hout with hout | hnew
          · exact Or.inl hout
          · exact Or.inr ⟨b, List.mem_cons_self, (List.mem_singleton.mp hnew).symm⟩
      · exact Or.inr ⟨b', List.mem_cons_of_mem _ hb', rfl⟩
  exact (hstep l [] h).resolve_left List.not_mem_nil

/-- How long the texts of a list are, together. -/
def sizes (l : List String) : ℕ := (l.map (fun a => a.toList.length)).sum

theorem sizes_cons (a : String) (l : List String) : sizes (a :: l) = a.toList.length + sizes l := by
  simp [sizes]

theorem sizes_normalizeAmenities (l : List String) : sizes (normalizeAmenities l) ≤ sizes l := by
  have hstep : ∀ (l out : List String), sizes (l.foldl addAmenity out) ≤ sizes out + sizes l := by
    intro l
    induction l with
    | nil => exact fun out => Nat.le_add_right _ _
    | cons b l ih =>
      intro out
      have hadd : sizes (addAmenity out b) ≤ sizes out + b.toList.length := by
        rw [addAmenity]
        split_ifs
        · exact Nat.le_add_right _ _
        · have hshort : (trimSpace b).toList.length ≤ b.toList.length := by
            rw [trimSpace_eq, String.toList_ofList]
            exact (strip_part _ _).length_le
          simpa [sizes] using hshort
      have hrest := ih (addAmenity out b)
      rw [List.foldl_cons, sizes_cons]
      omega
  have hall := hstep l []
  rwa [show sizes [] = 0 from rfl, Nat.zero_add] at hall

theorem sizes_filter (p : String → Bool) (l : List String) : sizes (l.filter p) ≤ sizes l := by
  induction l with
  | nil => exact Nat.le_refl _
  | cons a l ih =>
    rw [List.filter_cons]
    split
    · rw [sizes_cons, sizes_cons]
      omega
    · rw [sizes_cons]
      omega

theorem length_trim (a : String) : (trim a).toList.length ≤ a.toList.length := by
  rw [trim, String.toList_ofList]
  exact (strip_part _ _).length_le

theorem sizes_trim (l : List String) : sizes (l.map trim) ≤ sizes l := by
  induction l with
  | nil => exact Nat.le_refl _
  | cons a l ih =>
    have hshort := length_trim a
    rw [List.map_cons, sizes_cons, sizes_cons]
    omega

/-- Where the texts are as long as before, nothing was trimmed. -/
theorem trim_of_sizes {l : List String} (h : sizes l ≤ sizes (l.map trim)) : ∀ a ∈ l, trim a = a := by
  induction l with
  | nil => exact fun a ha => absurd ha List.not_mem_nil
  | cons a l ih =>
    have hshort := length_trim a
    have hrest := sizes_trim l
    rw [List.map_cons, sizes_cons, sizes_cons] at h
    refine List.forall_mem_cons.mpr ⟨?_, ih (by omega)⟩
    have hinfix := strip_part isBlank a.toList
    have hlen : (strip isBlank a.toList).length = a.toList.length := by
      rw [trim, String.toList_ofList] at h hshort
      omega
    rw [trim, hinfix.eq_of_length hlen, String.ofList_toList]

theorem oneLine_shown {l : List String} (h : ∀ a ∈ l, OneLine a) : OneLine (shownAmenities l) := by
  have hcomma : "، ".toList = ['،', ' '] := rfl
  intro c hc
  rw [shownAmenities, String.toList_intercalate, hcomma] at hc
  induction l with
  | nil => exact absurd hc List.not_mem_nil
  | cons a l ih =>
    obtain ⟨ha, hl⟩ := List.forall_mem_cons.mp h
    cases l with
    | nil =>
      rw [List.map_singleton, List.intercalate_singleton] at hc
      exact ha c hc
    | cons b l =>
      rw [List.map_cons, List.map_cons, List.intercalate_cons_cons, List.append_assoc] at hc
      rcases List.mem_append.mp hc with hc | hc
      · exact ha c hc
      · rcases List.mem_append.mp hc with hc | hc
        · rcases List.mem_pair.mp hc with rfl | rfl <;> decide
        · exact ih hl hc

/-- Items without separators come back trimmed, the blank ones not at all. -/
theorem list_trimmed {fd : FormData} {l : List String} (hfd : fd "amenities" = some (shownAmenities l))
    (hsep : ∀ a ∈ l, ∀ c ∈ a.toList, isSeparator c = false) (hline : ∀ a ∈ l, OneLine a) :
    list fd "amenities" = (l.map trim).filter (fun s => s != "") := by
  have hblank : ∀ c ∈ (shownAmenities l).toList, isBlank c = true → isSeparator c = false := by
    intro c hc hblank
    have hfeed := (oneLine_shown hline c hc).1
    have hlatin : c ≠ ',' := fun h => absurd hblank (by rw [h]; decide)
    have harabic : c ≠ '،' := fun h => absurd hblank (by rw [h]; decide)
    simp [isSeparator, hfeed, hlatin, harabic]
  have hlist : list fd "amenities" = ((((shownAmenities l).toList.splitOnP isSeparator).map
      (strip isBlank)).map String.ofList).filter (fun s => s != "") := by
    rw [list, text, hfd, Option.getD_some, trim, String.toList_ofList, ← map_strip_splitOnP hblank,
      List.map_map]
    simp only [trim, String.toList_ofList, Function.comp_def]
  have htrim : ∀ l : List String, (l.map String.toList).map (fun s => String.ofList (strip isBlank s))
      = l.map trim := by
    intro l
    rw [List.map_map]
    rfl
  rw [hlist, List.map_map]
  cases l with
  | nil => rfl
  | cons first rest =>
    obtain ⟨hfirst, hrest⟩ := List.forall_mem_cons.mp hsep
    have hcomma : "، ".toList = ['،', ' '] := rfl
    rw [shownAmenities, String.toList_intercalate, hcomma, List.map_cons,
      splitOnP_intercalate rfl (by simp [isSeparator]) _ _ hfirst (by simpa using hrest), List.map_cons,
      List.map_map, List.map_cons]
    have hspace : ∀ m : List Char, strip isBlank ([' '] ++ m) = strip isBlank m :=
      fun m => strip_cons rfl m
    simp only [Function.comp_def, hspace]
    rw [htrim]
    rfl

theorem list_sent {fd : FormData} {key item : String} (h : item ∈ list fd key) :
    ∀ c ∈ item.toList, c ∈ ((fd key).getD "").toList := by
  obtain ⟨piece, hpiece, rfl⟩ := List.mem_map.mp (List.mem_filter.mp h).1
  intro c hc
  rw [trim, String.toList_ofList, String.toList_ofList] at hc
  have hwhole := mem_of_mem_piece hpiece c (mem_of_mem_strip hc)
  rw [text, trim, String.toList_ofList] at hwhole
  exact mem_of_mem_strip hwhole

/-- **Which amenities come back** from a field that nobody touched. -/
theorem amenities_back_iff {fd : FormData} {l : List String} (hl : normalizeAmenities l = l)
    (hfd : fd "amenities" = some (inputValue (shownAmenities l))) :
    normalizeAmenities (list fd "amenities") = l ↔ ∀ a ∈ l, Plain a ∧ '\r' ∉ a.toList := by
  have htidy := normalizeAmenities_tidy l
  rw [hl] at htidy
  constructor
  · intro h
    have hchars : ∀ a ∈ l, (∀ c ∈ a.toList, isSeparator c = false) ∧ OneLine a := by
      intro a ha
      rw [← h] at ha
      obtain ⟨item, hitem, rfl⟩ := mem_normalizeAmenities ha
      have hmem : ∀ c ∈ (trimSpace item).toList, c ∈ item.toList := by
        intro c hc
        rw [trimSpace_eq, String.toList_ofList] at hc
        exact mem_of_mem_strip hc
      refine ⟨fun c hc => (list_tidy hitem).2 c (hmem c hc), fun c hc => ?_⟩
      have hsent := list_sent hitem c (hmem c hc)
      rw [hfd, Option.getD_some, toList_inputValue] at hsent
      simpa using (List.mem_filter.mp hsent).2
    have hshown : fd "amenities" = some (shownAmenities l) := by
      rw [hfd, inputValue_eq_iff.mpr (oneLine_shown (fun a ha => (hchars a ha).2))]
    rw [list_trimmed hshown (fun a ha => (hchars a ha).1) (fun a ha => (hchars a ha).2)] at h
    have hkept : sizes l ≤ sizes (l.map trim) := by
      have hall := sizes_normalizeAmenities ((l.map trim).filter (fun s => s != ""))
      rw [h] at hall
      exact hall.trans (sizes_filter _ _)
    have hsame := trim_of_sizes hkept
    intro a ha
    refine ⟨⟨(hchars a ha).1, (trim_stored (htidy.1 a ha).1).mp (hsame a ha)⟩, fun hreturn => ?_⟩
    exact ((hchars a ha).2 _ hreturn).2 rfl
  · intro h
    have hline : ∀ a ∈ l, OneLine a := by
      intro a ha c hc
      have hsep := (h a ha).1.1 c hc
      refine ⟨fun hfeed => absurd hsep (by rw [hfeed]; decide), fun hreturn => (h a ha).2 (hreturn ▸ hc)⟩
    have htrim : ∀ a ∈ l, trim a = a := fun a ha => (trim_stored (htidy.1 a ha).1).mpr (h a ha).1.2
    have hshown : fd "amenities" = some (shownAmenities l) := by
      rw [hfd, inputValue_eq_iff.mpr (oneLine_shown hline)]
    rw [list_trimmed hshown (fun a ha => (h a ha).1.1) hline, List.map_congr_left htrim, List.map_id',
      List.filter_eq_self.mpr (fun a ha => bne_iff_ne.mpr (htidy.1 a ha).2), hl]

end Web

end Sahel

import Sahel.Library.UrlPath
import Sahel.Safety.Session

/-!
# Where a sign-in leads

`safeNext` looks at the text it is given; a browser follows the URL it resolves to.

* `StaysInside` is what the function is for: the URL is on the site and in the locale's dashboard;
* **`next_stays_iff`**: so it is just when the segments of what is followed lead back to the dashboard;
* **`next_leaves`**: `..` behind the dashboard leads out of it.
-/

set_option autoImplicit false

namespace Sahel

namespace Web

namespace Session

open UrlPath

/-- The directory of the dashboard. -/
def dashboard (locale : Locale) : List Segment := [locale.text.toList, "dashboard".toList]

/-- A target is resolved to a URL of the site, at the dashboard or below it. -/
def StaysInside {Origin : Type} (origin : Origin) (locale : Locale) (target : JsString) : Prop :=
  ∃ url, parse origin (scalars target) = some url ∧ url.origin = origin ∧
    InDirectory (dashboard locale) url.path

/-- What `safeNext` follows: the dashboard, and what goes on behind it with a slash or a query. -/
def Followed (locale : Locale) (next : JsString) : Prop :=
  ∃ rest, next = home locale ++ rest ∧ (rest = [] ∨ units "/" <+: rest ∨ units "?" <+: rest)

/-- The segments of a target, as a browser reads them behind its first slash. -/
def segmentsOf (target : JsString) : List Segment := segments [] (UrlPath.clean (scalars target)).tail

/-- Segment by segment, `..` one up and any other but `.` one down, the walk is under both levels of the
dashboard at its end. -/
def LeadsBack (locale : Locale) (next : JsString) : Prop :=
  (walk (dashboard locale) (segmentsOf next)).shared = 2

instance (locale : Locale) (next : JsString) : Decidable (LeadsBack locale next) :=
  inferInstanceAs (Decidable (_ = 2))

example : LeadsBack .en (units "/en/dashboard/units/../bookings?from=2026-07-01")
    ∧ LeadsBack .en (units "/en/dashboard/%2e./dashboard")
    ∧ ¬ LeadsBack .en (units "/en/dashboard/x/../../y") := by
  decide +kernel

/-! ### What is followed -/

theorem dashboard_plain (locale : Locale) : UrlPath.Plain (dashboard locale) := by
  show ∀ s ∈ dashboard locale, '/' ∉ s
  cases locale <;> decide

theorem nil_notMem_dashboard (locale : Locale) : [] ∉ dashboard locale := by
  cases locale <;> decide

/-- The dashboard's own path, unit by unit. -/
theorem home_eq (locale : Locale) : ∃ u rest, home locale = 47 :: u :: rest ∧ u < 128 ∧
    c0OrSpace (unitChar u) = false ∧ isSlash (unitChar u) = false ∧ u ≠ 47 := by
  cases locale with
  | ar => exact ⟨97, units "r/dashboard", by decide⟩
  | en => exact ⟨101, units "n/dashboard", by decide⟩

theorem safeNext_followed {locale : Locale} {next : JsString} (h : Followed locale next) :
    safeNext locale (some next) = next := by
  obtain ⟨rest, rfl, hrest⟩ := h
  obtain ⟨u, tail, hhome, -, -, -, hu⟩ := home_eq locale
  have hne : home locale ++ rest ≠ [] := by
    rw [hhome]
    exact List.cons_ne_nil _ _
  have hslashes : ¬ units "//" <+: home locale ++ rest := by
    rw [hhome]
    show ¬ [47, 47] <+: 47 :: u :: (tail ++ rest)
    rw [List.cons_prefix_cons, List.cons_prefix_cons]
    exact fun hp => hu hp.2.1.symm
  rw [safeNext, if_neg (not_or.mpr ⟨hne, not_or.mpr ⟨not_not.mpr (List.prefix_append _ _), hslashes⟩⟩)]
  show (if (home locale ++ rest).drop (home locale).length = [] ∨ _ ∨ _ then _ else _) = _
  rw [List.drop_left]
  exact if_pos hrest

theorem safeNext_other {locale : Locale} {next : JsString} (h : ¬ Followed locale next) :
    safeNext locale (some next) = home locale := by
  rw [safeNext]
  split_ifs with hout
  · rfl
  · show (if next.drop (home locale).length = [] ∨ _ ∨ _ then _ else _) = _
    refine if_neg (fun hrest => h ?_)
    obtain ⟨rest, rfl⟩ := not_not.mp (not_or.mp (not_or.mp hout).2).1
    rw [List.drop_left] at hrest
    exact ⟨rest, rfl, hrest⟩

/-- **What begins like the dashboard** stays inside when it leads back. -/
theorem staysInside_iff {Origin : Type} (origin : Origin) (locale : Locale) {target : JsString}
    (h : home locale <+: target) : StaysInside origin locale target ↔ LeadsBack locale target := by
  obtain ⟨rest, rfl⟩ := h
  obtain ⟨u, tail, hhome, hu, hblank, hslash, -⟩ := home_eq locale
  have hscalars : scalars (home locale ++ rest) = '/' :: unitChar u :: scalars (tail ++ rest) := by
    rw [hhome]
    show scalars (47 :: u :: (tail ++ rest)) = _
    rw [scalars_cons (by decide), scalars_cons (not_isHigh_ascii hu)]
    rfl
  obtain ⟨cleaned, hclean⟩ := clean_cons_cons (show c0OrSpace '/' = false by decide) hblank
    (scalars (tail ++ rest))
  rw [← hscalars] at hclean
  have hparse := parse_inDirectory_iff origin (dashboard_plain locale)
    (nil_notMem_dashboard locale) hclean (by decide) hslash
  rw [StaysInside, hparse, LeadsBack, segmentsOf, hclean]
  rfl

theorem home_leadsBack (locale : Locale) : LeadsBack locale (home locale) := by
  cases locale <;> decide +kernel

/-- **Where a sign-in leads.**  For each locale and every text: it stays inside the dashboard just when
the text is not followed, or its segments lead back. -/
theorem next_stays_iff {Origin : Type} (origin : Origin) (locale : Locale) (next : Option JsString) :
    StaysInside origin locale (safeNext locale next) ↔
      ∀ n, next = some n → Followed locale n → LeadsBack locale n := by
  have hhome : StaysInside origin locale (home locale) :=
    (staysInside_iff origin locale (List.prefix_refl _)).mpr (home_leadsBack locale)
  cases next with
  | none => exact iff_of_true hhome (fun n hn => nomatch hn)
  | some n =>
    by_cases hfollowed : Followed locale n
    · have hprefix : home locale <+: n := by
        obtain ⟨rest, rfl, -⟩ := hfollowed
        exact List.prefix_append _ _
      rw [safeNext_followed hfollowed, staysInside_iff origin locale hprefix]
      constructor
      · rintro h n' hn' -
        cases hn'
        exact h
      · exact fun h => h n rfl hfollowed
    · rw [safeNext_other hfollowed]
      refine iff_of_true hhome (fun n' hn' hf => absurd hf ?_)
      cases hn'
      exact hfollowed

/-- **A sign-in that leaves the dashboard.** -/
theorem next_leaves : ¬ ∀ (Origin : Type) (origin : Origin) (locale : Locale) (next : Option JsString),
    StaysInside origin locale (safeNext locale next) := by
  intro h
  obtain ⟨url, hurl, -, hin⟩ := h Unit () .ar (some (units "/ar/dashboard/.."))
  have hparse : parse () (scalars (safeNext .ar (some (units "/ar/dashboard/.."))))
      = some ⟨(), ["ar".toList, []]⟩ := by
    decide +kernel
  rw [hparse] at hurl
  cases hurl
  have hout : ¬ (pathname ["ar".toList, []] = pathname (dashboard .ar) ∨
      pathname (dashboard .ar) ++ ['/'] <+: pathname ["ar".toList, []]) := by
    decide
  exact hout hin

end Session

end Web

end Sahel

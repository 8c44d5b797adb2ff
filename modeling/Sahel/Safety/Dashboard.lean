import Sahel.Web.Middleware

/-!
# The dashboard's sign-in check

The check is two patterns written apart: the middleware asks `isDashboardPath`, and the server
runs the middleware on the paths its matcher admits.

* `isDashboardPath_iff` and `matcher_admits_iff` say which paths each of them means;
* **`dashboard_guarded`**: a dashboard path is guarded exactly when it has no dot and no line end.
  The matcher passes dotted paths by, as if they were files, so `/ar/dashboard/units/a.b` opens
  without a session (`dashboard_open`).
-/

set_option autoImplicit false

namespace Sahel

namespace Web

/-! ### The two patterns -/

/-- A dashboard path: the locale, then the dashboard or something below it. -/
theorem isDashboardPath_iff {p : List Char} :
    isDashboardPath p ↔ ∃ locale rest, (locale = ['a', 'r'] ∨ locale = ['e', 'n']) ∧
      p = '/' :: locale ++ "/dashboard".toList ++ rest ∧ (rest = [] ∨ ∃ r, rest = '/' :: r) := by
  rw [isDashboardPath, Regex.test_iff]
  simp only [dashboardPattern, Regex.mem_run_seq, Regex.mem_run_alt, Regex.mem_run_text,
    Regex.mem_run_atEnd]
  constructor
  · rintro ⟨t, q, rfl, u, hu, rest, rfl, hrest⟩
    have hend : rest = [] ∨ ∃ r, rest = '/' :: r := by
      rcases hrest with hr | ⟨-, hr⟩
      · exact Or.inr ⟨t, hr⟩
      · exact Or.inl hr
    rcases hu with rfl | rfl
    · exact ⟨['a', 'r'], rest, Or.inl rfl, by simp, hend⟩
    · exact ⟨['e', 'n'], rest, Or.inr rfl, by simp, hend⟩
  · rintro ⟨locale, rest, hlocale, rfl, hrest⟩
    have hend : ∃ t, rest = ['/'] ++ t ∨ t = rest ∧ rest = [] := by
      rcases hrest with rfl | ⟨r, rfl⟩
      · exact ⟨[], Or.inr ⟨rfl, rfl⟩⟩
      · exact ⟨r, Or.inl rfl⟩
    obtain ⟨t, ht⟩ := hend
    refine ⟨t, locale ++ "/dashboard".toList ++ rest, by simp, "/dashboard".toList ++ rest, ?_,
      rest, rfl, ht⟩
    rcases hlocale with rfl | rfl
    · exact Or.inl (by simp)
    · exact Or.inr (by simp)

/-- Something before a dot, up to which no line ends. -/
theorem dotted_test_iff {q : List Char} :
    (Regex.seq (.star anyChar) (.seq (.text ['.']) (.star anyChar))).test q ↔
      ∃ a b, q = a ++ '.' :: b ∧ ∀ c ∈ a, lineEnd c = false := by
  rw [Regex.test_iff]
  simp only [anyChar, Regex.mem_run_seq, Regex.mem_run_star_chars, Regex.mem_run_text,
    Bool.not_eq_true']
  constructor
  · rintro ⟨t, u, ⟨a, rfl, ha⟩, b, rfl, -⟩
    exact ⟨a, b, rfl, ha⟩
  · rintro ⟨a, b, rfl, ha⟩
    exact ⟨b, '.' :: b, ⟨a, rfl, ha⟩, b, rfl, [], rfl, by simp⟩

/-- A path the middleware runs on: none of the reserved names in front, no dot, no line end. -/
theorem matcher_admits_iff {p : List Char} :
    matcher.admits p ↔ ∃ q, p = '/' :: q ∧ ¬ "api".toList <+: q ∧ ¬ "_next".toList <+: q ∧
      ¬ "_vercel".toList <+: q ∧ ∀ c ∈ q, c ≠ '.' ∧ lineEnd c = false := by
  have hprefix : ∀ w q : List Char, (Regex.text w).test q ↔ w <+: q := by
    intro w q
    rw [Regex.test_iff]
    simp only [Regex.mem_run_text]
    exact ⟨fun ⟨t, ht⟩ => ⟨t, ht.symm⟩, fun ⟨t, ht⟩ => ⟨t, ht.symm⟩⟩
  have halt : ∀ (r s : Regex Char) (q : List Char), (Regex.alt r s).test q ↔ r.test q ∨ s.test q := by
    intro r s q
    simp only [Regex.test_iff, Regex.mem_run_alt, exists_or]
  simp only [Regex.admits, matcher, Regex.mem_run_seq, Regex.mem_run_text, Regex.mem_run_notAhead,
    halt, hprefix, dotted_test_iff, not_or]
  constructor
  · rintro ⟨q, rfl, q', ⟨rfl, hapi, hnext, hvercel, hdot⟩, hall⟩
    simp only [anyChar, Regex.mem_run_star_chars, List.append_nil, Bool.not_eq_true'] at hall
    obtain ⟨block, rfl, hline⟩ := hall
    refine ⟨q', rfl, hapi, hnext, hvercel, fun c hc => ⟨?_, hline c hc⟩⟩
    rintro rfl
    obtain ⟨a, b, rfl⟩ := List.append_of_mem hc
    exact hdot ⟨a, b, rfl, fun c hc => hline c (List.mem_append_left _ hc)⟩
  · rintro ⟨q, rfl, hapi, hnext, hvercel, hplain⟩
    refine ⟨q, rfl, q, ⟨rfl, hapi, hnext, hvercel, ?_⟩, ?_⟩
    · rintro ⟨a, b, rfl, -⟩
      exact (hplain '.' (by simp)).1 rfl
    · simp only [anyChar, Regex.mem_run_star_chars, List.append_nil, Bool.not_eq_true']
      exact ⟨q, rfl, fun c hc => (hplain c hc).2⟩

/-! ### The guard -/

/-- Nobody opens the path without a session: the matcher sends it to the middleware, which answers
with the sign-in page or refuses. -/
def Guarded (p : List Char) : Prop :=
  matcher.admits p ∧ ∀ (srv : WebServer) (req : NextRequest), req.pathname = p →
    signedIn srv req = false →
    (req.method = "GET" ∨ req.method = "HEAD" → ∃ locale, (locale = ['a', 'r'] ∨ locale = ['e', 'n']) ∧
      respond srv req
        = .redirect 307 ('/' :: locale ++ "/login".toList) (some (p ++ req.search))) ∧
    (req.method ≠ "GET" → req.method ≠ "HEAD" → respond srv req = .text 401 "Sign in required")

/-- A dashboard path never goes by the old un-prefixed names. -/
theorem legacyDashboardTarget_of_isDashboardPath {p : List Char} (h : isDashboardPath p) :
    legacyDashboardTarget p = none := by
  obtain ⟨locale, rest, hlocale, rfl, -⟩ := isDashboardPath_iff.mp h
  rcases hlocale with rfl | rfl
  · simp [legacyDashboardTarget]
  · simp [legacyDashboardTarget]

/-- **What the middleware does with a dashboard request that has no session.** -/
theorem respond_unsigned {srv : WebServer} {req : NextRequest} (h : isDashboardPath req.pathname)
    (hm : matcher.admits req.pathname) (hs : signedIn srv req = false) :
    respond srv req = if req.method ≠ "GET" ∧ req.method ≠ "HEAD" then .text 401 "Sign in required"
      else .redirect 307 ('/' :: (req.pathname.drop 1).take 2 ++ "/login".toList)
        (some (req.pathname ++ req.search)) := by
  rw [respond, if_pos hm, middleware, legacyDashboardTarget_of_isDashboardPath h]
  exact if_pos ⟨h, hs⟩

/-- **The sign-in check, where it holds.**  A dashboard path is guarded exactly when it has no dot
and no line end. -/
theorem dashboard_guarded {p : List Char} (h : isDashboardPath p) :
    Guarded p ↔ ∀ c ∈ p, c ≠ '.' ∧ lineEnd c = false := by
  obtain ⟨locale, rest, hlocale, hp, -⟩ := isDashboardPath_iff.mp h
  constructor
  · rintro ⟨hm, -⟩
    obtain ⟨q, rfl, -, -, -, hq⟩ := matcher_admits_iff.mp hm
    exact List.forall_mem_cons.mpr ⟨by decide, hq⟩
  · intro hplain
    have hm : matcher.admits p := by
      rw [matcher_admits_iff]
      refine ⟨locale ++ "/dashboard".toList ++ rest, by rw [hp]; rfl, ?_, ?_, ?_, ?_⟩
      · rcases hlocale with rfl | rfl <;> simp
      · rcases hlocale with rfl | rfl <;> simp
      · rcases hlocale with rfl | rfl <;> simp
      · intro c hc
        refine hplain c ?_
        rw [hp]
        exact List.mem_cons_of_mem _ hc
    refine ⟨hm, ?_⟩
    rintro srv req rfl hs
    rw [respond_unsigned h hm hs]
    constructor
    · intro hget
      refine ⟨locale, hlocale, ?_⟩
      rw [if_neg (fun hn => hget.elim hn.1 hn.2)]
      have htake : (req.pathname.drop 1).take 2 = locale := by
        rw [hp]
        rcases hlocale with rfl | rfl <;> rfl
      rw [htake]
    · intro hget hhead
      exact if_pos ⟨hget, hhead⟩

/-- A unit's page is guarded. -/
theorem dashboard_guarded_units : Guarded "/en/dashboard/units/7f".toList := by
  have hplain : "/en/dashboard/units/7f".toList.all (fun c => c != '.' && !lineEnd c) = true := rfl
  refine (dashboard_guarded (by decide)).mpr (fun c hc => ?_)
  simpa using List.all_eq_true.mp hplain c hc

/-- **A dotted path is open.**  The matcher passes it by, so a Server Action sent to it without a
session reaches the app. -/
theorem dashboard_open : ¬ ∀ p : List Char, isDashboardPath p → Guarded p := by
  intro h
  obtain ⟨hm, -⟩ := h "/ar/dashboard/units/a.b".toList (by decide)
  exact absurd hm (by decide)

end Web

end Sahel

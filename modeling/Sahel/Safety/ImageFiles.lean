import Sahel.Http.ImageFiles
import Sahel.Safety.Covers

/-!
# No photo without its file

The rows of the photos and the files they name are changed by different calls, in an order that
failures may cut anywhere.

* `UrlChange` is what a commit does to the URLs of the photos, with what its handler stores and
  deletes: `commit_urls`;
* `Life` is where a name may stand, between an upload's `Put` and the end of its file, and `Stands`
  says when a name of the system stands there;
* `step_stands`: a step takes every name from one such place to another;
* **`photos_have_files`** is the result.
-/

set_option autoImplicit false

namespace Sahel

open ReadCommitted KeyedTable

/-! ### The names a handler has stored -/

theorem storedNames_eq_nil {es : List ImageEvent} (h : ∀ e ∈ es, putName e.stmt = none) :
    storedNames es = [] := by
  refine List.filterMap_eq_nil_iff.mpr (fun e he => ?_)
  rw [h e he]
  exact ite_self none

/-! ### The URLs of the photos -/

/-- The URL of each photo. -/
def imageURLs (t : ImageTables) (id : ℕ) : Option String := (t.images.find? id).map UnitImageRow.url

/-- What a commit does to the URLs, with the names its handler has stored and the URL it deletes. -/
inductive UrlChange (base : String) (m : ℕ → Option String) :
    (ℕ → Option String) → List String → Option String → Prop where
  | same : UrlChange base m m [] none
  | shown (id : ℕ) (key : String) (free : m id = none) :
      UrlChange base m (Function.update m id (some (publicURL base key))) [key] none
  | hidden (id : ℕ) (url : String) (h : m id = some url) :
      UrlChange base m (Function.update m id none) [] (some url)

section Changes

variable {base : String} {m m' : ℕ → Option String} {names : List String} {gone : Option String}

theorem UrlChange.formed (h : UrlChange base m m' names gone)
    (hm : ∀ id url, m id = some url → ∃ key, url = publicURL base key) (id : ℕ) (url : String)
    (hid : m' id = some url) : ∃ key, url = publicURL base key := by
  cases h with
  | same => exact hm id url hid
  | shown id₀ key free =>
    rw [Function.update_apply] at hid
    split_ifs at hid
    · exact ⟨key, (Option.some.inj hid).symm⟩
    · exact hm id url hid
  | hidden id₀ url₀ hold =>
    rw [Function.update_apply] at hid
    split_ifs at hid
    exact hm id url hid

/-- A URL that no photo had yet is the URL of one photo only. -/
theorem UrlChange.distinct (h : UrlChange base m m' names gone)
    (hm : ∀ id id' url, m id = some url → m id' = some url → id = id')
    (hnew : ∀ key ∈ names, ∀ id, m id ≠ some (publicURL base key)) (id id' : ℕ) (url : String)
    (hid : m' id = some url) (hid' : m' id' = some url) : id = id' := by
  cases h with
  | same => exact hm id id' url hid hid'
  | shown id₀ key free =>
    have hfree := hnew key List.mem_cons_self
    rw [Function.update_apply] at hid hid'
    split_ifs at hid hid' with h₁ h₂
    · exact h₁.trans h₂.symm
    · exact absurd (hid'.trans hid.symm) (hfree id')
    · exact absurd (hid.trans hid'.symm) (hfree id)
    · exact hm id id' url hid hid'
  | hidden id₀ url₀ hold =>
    rw [Function.update_apply] at hid hid'
    split_ifs at hid hid'
    exact hm id id' url hid hid'

/-- The URLs after a commit: those before, and the one that is shown, without the one deleted. -/
theorem UrlChange.shown_iff (h : UrlChange base m m' names gone)
    (hm : ∀ id id' url, m id = some url → m id' = some url → id = id') (key : String) :
    (∃ id, m' id = some (publicURL base key)) ↔
      ((∃ id, m id = some (publicURL base key)) ∨ key ∈ names) ∧ gone ≠ some (publicURL base key) := by
  cases h with
  | same => simp
  | shown id₀ key₀ free =>
    simp only [Function.update_apply, List.mem_singleton, ne_eq, reduceCtorEq, not_false_eq_true,
      and_true]
    constructor
    · rintro ⟨id, hid⟩
      split_ifs at hid
      · exact Or.inr (publicURL_injective base (Option.some.inj hid)).symm
      · exact Or.inl ⟨id, hid⟩
    · rintro (⟨id, hid⟩ | rfl)
      · refine ⟨id, ?_⟩
        rw [if_neg (fun he => by rw [he, free] at hid; cases hid)]
        exact hid
      · exact ⟨id₀, if_pos rfl⟩
  | hidden id₀ url₀ hold =>
    simp only [Function.update_apply, List.not_mem_nil, or_false, ne_eq, Option.some.injEq]
    constructor
    · rintro ⟨id, hid⟩
      split_ifs at hid with he
      refine ⟨⟨id, hid⟩, fun hurl => he ?_⟩
      exact hm id id₀ _ hid (hurl ▸ hold)
    · rintro ⟨⟨id, hid⟩, hne⟩
      refine ⟨id, ?_⟩
      rw [if_neg (fun he => by rw [he, hold] at hid; exact hne (Option.some.inj hid))]
      exact hid

/-- What is shown is not deleted, and what is deleted was shown. -/
theorem UrlChange.gone_of_mem (h : UrlChange base m m' names gone) {key : String}
    (hkey : key ∈ names) : gone = none ∧ names = [key] := by
  cases h with
  | same => cases hkey
  | shown id₀ key₀ free => exact ⟨rfl, by rw [List.mem_singleton.mp hkey]⟩
  | hidden id₀ url₀ hold => cases hkey

theorem UrlChange.shown_of_gone (h : UrlChange base m m' names gone) {url : String}
    (hurl : gone = some url) : ∃ id, m id = some url := by
  cases h with
  | same => cases hurl
  | shown id₀ key₀ free => cases hurl
  | hidden id₀ url₀ hold => exact ⟨id₀, hold.trans hurl⟩

end Changes

theorem imageURLs_insert {t : ImageTables} {i : UnitImageRow} (h : t.images.find? i.id = none) :
    imageURLs (t.insert i) = Function.update (imageURLs t) i.id (some i.url) := by
  funext id
  rw [Function.update_apply]
  show ((t.images.insert i).find? id).map UnitImageRow.url = _
  rw [Table.find?_insert h]
  by_cases hid : i.id = id
  · rw [if_pos hid, if_pos hid.symm]
    rfl
  · rw [if_neg hid, if_neg (Ne.symm hid)]
    rfl

theorem imageURLs_erase (t : ImageTables) (id : ℕ) :
    imageURLs (t.erase id) = Function.update (imageURLs t) id none := by
  funext x
  rw [Function.update_apply]
  show ((t.images.erase id).find? x).map UnitImageRow.url = _
  by_cases hx : x = id
  · rw [if_pos hx, hx, Table.find?_erase_self]
    rfl
  · rw [if_neg hx, Table.find?_erase_ne (Ne.symm hx)]
    rfl

/-- A patch changes no URL. -/
theorem Retouched.imageURLs {body : ImageInput} {unitId imageId : ℕ} {t t' : ImageTables}
    (h : Retouched body unitId imageId t t') : imageURLs t' = imageURLs t := by
  obtain ⟨i, i', hi, -, happly, hfind⟩ := h
  obtain rfl := ImageInput.apply_ok happly
  funext id
  rw [Sahel.imageURLs, Sahel.imageURLs, hfind]
  by_cases hid : imageId = id
  · rw [if_pos hid, ← hid, hi]
    rfl
  · rw [if_neg hid, Option.map_map]
    congr 1
    funext j
    show (if (body.edit i).isCover = true then withoutCover unitId j else j).url = j.url
    split_ifs
    · rw [withoutCover]
      split_ifs <;> rfl
    · rfl

/-! ### What a commit does -/

section Commits

open RelyGuarantee

variable {base : String} {srv : Server} {texts : Texts}

/-- A finished delete answers with the URL of the photo whose row it takes away. -/
def erases (base : String) :
    Post ImageSystemLock ImageSystemWrite ImageRows (AllResponse ⊕ ImageResponse) :=
  fun a L W d => ∀ d', ImageRely L d d' → ∀ url, deletedURL a = some url →
    ∃ id, imageURLs d'.2 id = some url ∧
      ((imagePostgres (publicURL base)).view d' W).2 = d'.2.erase id

theorem erases_stable : (photoGuarantee (publicURL base)).Stable (erases base) := by
  intro a L W d d' hQ hR d'' hR'
  exact hQ d'' (ImageRely.trans hR hR')

/-- The photo that a delete has found is locked. -/
theorem delete_erases (req : ImageDelete) (now : ℤ) (d : ImageRows) :
    (photoGuarantee (publicURL base)).wp now (adminDeleteUnitImage req)
      (fun url => erases base (.inr (.deleted url))) [] [] d := by
  simp only [adminDeleteUnitImage, Images.adminDeleteUnitImage, wp_bind, wp_require]
  intro unitId _ imageId _
  refine wp_one (wp_image (fun d₁ _ o row ws hrow => ?_))
  rintro url hurl d₂ hR url' ⟨⟩
  have hdelete : Queries.adminDeleteUnitImage imageId unitId d₁ = (row, ws) := Except.ok.inj hrow
  rw [Queries.adminDeleteUnitImage] at hdelete
  cases hget : Queries.adminGetUnitImage imageId unitId d₁ with
  | none =>
    rw [hget, hurl] at hdelete
    cases hdelete
  | some i =>
    rw [hget, hurl] at hdelete
    obtain ⟨hrowurl, rfl⟩ := Prod.mk.inj hdelete
    obtain ⟨hi, -⟩ := adminGetUnitImage_eq_some.mp hget
    obtain rfl : i.id = imageId := (Table.mem_of_find? hi).2
    have hL : imageLock i.id ∈ [] ++ (ImageStmt.adminDeleteUnitImage i.id unitId).locks o now d₁ := by
      show imageLock i.id ∈ ((Queries.adminGetUnitImage i.id unitId d₁).toList.flatMap _).map Sum.inr
      rw [hget]
      exact List.mem_cons_self
    refine ⟨i.id, ?_, rfl⟩
    rw [imageURLs, hR.image i.id hL, hi]
    exact hrowurl

/-- Nothing else answers so. -/
theorem imageSystem_erases (r : ImageSystemReq) (now : ℤ) (d : ImageRows) :
    (photoGuarantee (publicURL base)).wp now (imageSystem srv texts r) (erases base) [] [] d := by
  cases r with
  | inl r =>
    have hlift : ∀ (p : Prog AllStmt AllVal PgError ApiError AllResponse) L W d,
        (photoGuarantee (publicURL base)).wp now (p.lift Sum.inl) (erases base) L W d := by
      intro p
      induction p with
      | pure a => exact fun L W d d' _ url hurl => nomatch hurl
      | throw e => exact fun L W d => trivial
      | exec s k ih => exact fun L W d d' _ o v ws _ => ih _ _ _ _
    exact hlift _ _ _ _
  | inr r =>
    refine (wp_map _ _).mpr ?_
    cases r with
    | upload req =>
      exact (wp_map _ _).mpr (wp_mono (fun a L W d _ d' _ url hurl => nomatch hurl) _ (wp_true _))
    | patch req =>
      exact (wp_map _ _).mpr (wp_mono (fun a L W d _ d' _ url hurl => nomatch hurl) _ (wp_true _))
    | delete req => exact (wp_map _ _).mpr (delete_erases req now d)

/-- A `Put` that answers has stored its file. -/
theorem put_stored {publicURL : String → String} {key mime url : String} {o : Oracle} {now : ℤ}
    {d : ImageRows} {ws : List ImageWrite}
    (h : (ImageStmt.put key mime).eval publicURL o now d = .ok (url, ws)) :
    o.stored = true ∧ url = publicURL key ∧ ws = [] := by
  rw [ImageStmt.eval] at h
  split_ifs at h with hstored
  cases h
  exact ⟨hstored, rfl, rfl⟩

/-- The row has the URL that was asked for. -/
theorem adminCreateUnitImage_url {arg : AdminCreateUnitImageParams} {next : NextImage} {uuid : ℕ}
    {now : ℤ} {d : ImageRows} {row : UnitImageRow} {ws : List ImageWrite}
    (h : Queries.adminCreateUnitImage arg next uuid now d = .ok (row, ws)) : row.url = arg.url := by
  rw [Queries.adminCreateUnitImage] at h
  split_ifs at h
  cases h
  rfl

section Uploads

variable {now : ℤ} {W W' : List ImageSystemWrite} {es : List ImageEvent}

/-- A statement about photos that ran. -/
theorem ran_image {publicURL : String → String} {lift : PgError → ApiError} {s : ImageStmt} {v : s.Val}
    (h : Ran (imagePostgres publicURL) now
      (Prog.query lift (Sum.inr s : ImageSystemStmt) : ImageHandler s.Val) W es v W') :
    ∃ o d ws, es = [⟨.inr s, o, d⟩] ∧
      s.eval publicURL o now ((imagePostgres publicURL).view d W) = .ok (v, ws) ∧
      W' = W ++ ws.map Sum.inr := by
  obtain ⟨o, d, ws, rfl, he, rfl⟩ := Ran.of_query h
  obtain ⟨ws₀, he₀, rfl⟩ := Extra.eval_inr he
  exact ⟨o, d, ws₀, rfl, he₀, rfl⟩

/-- A statement of the rest that stores and writes nothing. -/
theorem ran_other {publicURL : String → String} {lift : PgError → ApiError} {s : AllStmt}
    {v : AllVal s}
    (hs : ∀ o d v ws, (imagePostgres publicURL).eval (.inl s) o now d = .ok (v, ws) → ws = [])
    (h : Ran (imagePostgres publicURL) now
      (Prog.query lift (Sum.inl s : ImageSystemStmt) : ImageHandler (AllVal s)) W es v W') :
    storedNames es = [] ∧ W' = W := by
  obtain ⟨o, d, ws, rfl, he, rfl⟩ := Ran.of_query h
  obtain rfl := hs _ _ _ _ he
  refine ⟨storedNames_eq_nil (fun e hmem => ?_), List.append_nil W⟩
  rw [List.mem_singleton.mp hmem]
  rfl

theorem storedNames_append (es es' : List ImageEvent) :
    storedNames (es ++ es') = storedNames es ++ storedNames es' := List.filterMap_append

/-- An upload that gets through has stored one file, and inserts a row with its URL. -/
theorem upload_ran {publicURL : String → String} {req : ImageUpload} {a : UnitImageRow}
    (h : Ran (imagePostgres publicURL) now (adminUploadUnitImage req) [] es a W) :
    ∃ key row, storedNames es = [key] ∧ W = [.inr (.insert row)] ∧ row.url = publicURL key := by
  obtain ⟨_, _, unitId, _, rfl, h₁, h⟩ := Ran.of_bind h
  obtain ⟨rfl, -, rfl⟩ := Ran.of_require h₁
  obtain ⟨es₂, _, unit, _, rfl, h₂, h⟩ := Ran.of_bind h
  obtain ⟨hes₂, rfl⟩ := ran_other (fun o d v ws he => by cases he; rfl) h₂
  obtain ⟨_, _, _, _, rfl, h₃, h⟩ := Ran.of_bind h
  obtain ⟨rfl, -, rfl⟩ := Ran.of_require h₃
  obtain ⟨_, _, _, _, rfl, h₄, h⟩ := Ran.of_bind h
  obtain ⟨rfl, -, rfl⟩ := Ran.of_refuse h₄
  obtain ⟨_, _, file, _, rfl, h₅, h⟩ := Ran.of_bind h
  obtain ⟨rfl, -, rfl⟩ := Ran.of_require h₅
  obtain ⟨_, _, _, _, rfl, h₆, h⟩ := Ran.of_bind h
  obtain ⟨rfl, -, rfl⟩ := Ran.of_refuse h₆
  obtain ⟨_, _, mime, _, rfl, h₇, h⟩ := Ran.of_bind h
  obtain ⟨rfl, -, rfl⟩ := Ran.of_require h₇
  obtain ⟨_, _, ext, _, rfl, h₈, h⟩ := Ran.of_bind h
  obtain ⟨rfl, -, rfl⟩ := Ran.of_require h₈
  obtain ⟨es₉, _, uuid, _, rfl, h₉, h⟩ := Ran.of_bind h
  obtain ⟨hes₉, rfl⟩ := ran_other (fun o d v ws he => by cases he; rfl) h₉
  obtain ⟨_, _, url, _, rfl, hput, h⟩ := Ran.of_bind h
  obtain ⟨op, dp, wsp, rfl, hep, rfl⟩ := ran_image hput
  obtain ⟨hstored, rfl, rfl⟩ := put_stored hep
  obtain ⟨_, _, _, _, rfl, hlock, h⟩ := Ran.of_bind h
  obtain ⟨_, _, row, _, rfl, hl, hsome⟩ := Ran.of_bind hlock
  obtain ⟨rfl, -, rfl⟩ := Ran.of_require hsome
  obtain ⟨ol, dl, wsl, rfl, hel, rfl⟩ := ran_image hl
  obtain rfl : wsl = [] := (Prod.mk.inj (Except.ok.inj hel)).2.symm
  obtain ⟨_, _, next, _, rfl, hn, h⟩ := Ran.of_bind h
  obtain ⟨on, dn, wsn, rfl, hen, rfl⟩ := ran_image hn
  obtain rfl : wsn = [] := (Prod.mk.inj (Except.ok.inj hen)).2.symm
  obtain ⟨oc, dc, wsc, rfl, hec, rfl⟩ := ran_image h
  obtain ⟨rfl, -⟩ := adminCreateUnitImage_ok hec
  refine ⟨_, a, ?_, rfl, adminCreateUnitImage_url hec⟩
  simp only [storedNames_append, hes₂, hes₉]
  simp [storedNames, putName, hstored]

end Uploads

/-- Only uploads store a file. -/
theorem only_any {Stmt ε α : Type} {Val : Stmt → Type} (p : Prog Stmt Val PgError ε α) :
    p.Only (fun _ => True) := by
  induction p with
  | pure a => exact .pure a
  | throw e => exact .throw e
  | exec s k ih => exact .exec trivial ih

theorem other_stores_nothing {r : ImageSystemReq} (hr : ∀ req, r ≠ .inr (.upload req)) :
    (imageSystem srv texts r).Only (fun s => putName s = none) := by
  cases r with
  | inl r =>
    have hlift : (imageSystem srv texts (.inl r)).Only (Sum.elim (fun _ => True) (fun _ => False)) :=
      (only_any (fullProgram srv texts r)).lift
    refine hlift.mono (fun s hs => ?_)
    cases s with
    | inl s => rfl
    | inr s => exact absurd hs id
  | inr r =>
    refine Prog.only_map _ ?_
    cases r with
    | upload req => exact absurd rfl (hr req)
    | patch req =>
      refine Prog.only_map _ (Prog.only_bind (Prog.only_require _ _) (fun unitId => ?_))
      refine Prog.only_bind (Prog.only_require _ _) (fun imageId => ?_)
      refine Prog.only_bind (Prog.only_bind (Prog.only_query _ rfl) (fun _ => Prog.only_require _ _))
        (fun _ => ?_)
      refine Prog.only_bind (Prog.only_bind (Prog.only_query _ rfl) (fun _ => Prog.only_require _ _))
        (fun img => Prog.only_bind (Prog.only_check _ _) (fun img' => ?_))
      have hupdate : (Images.adminUpdateUnitImage ⟨imageId, img'.altAr, img'.altEn, img'.sort,
          img'.isCover⟩).Only (fun s => putName s = none) :=
        Prog.only_bind (Prog.only_query _ rfl) (fun _ => Prog.only_require _ _)
      dsimp only
      split
      · exact Prog.only_bind (Prog.only_bind (Prog.only_query _ rfl) (fun _ => Prog.only_query _ rfl))
          (fun _ => hupdate)
      · exact hupdate
    | delete req =>
      refine Prog.only_map _ (Prog.only_bind (Prog.only_require _ _) (fun unitId => ?_))
      refine Prog.only_bind (Prog.only_require _ _) (fun imageId => ?_)
      exact Prog.only_bind (Prog.only_query _ rfl) (fun _ => Prog.only_require _ _)

/-- The URL that a request deletes, unless it is one for a delete. -/
theorem deletedURL_eq_none {r : ImageSystemReq} (hr : ∀ req, r ≠ .inr (.delete req)) {now : ℤ}
    {W W' : List ImageSystemWrite} {es : List ImageEvent} {a : AllResponse ⊕ ImageResponse}
    (h : Ran (imagePostgres (publicURL base)) now (imageSystem srv texts r) W es a W') :
    deletedURL a = none := by
  cases r with
  | inl r =>
    have hlift : ∀ (p : Prog AllStmt AllVal PgError ApiError AllResponse) W es,
        Ran (imagePostgres (publicURL base)) now (p.lift Sum.inl) W es a W' → deletedURL a = none := by
      intro p
      induction p with
      | pure b =>
        intro W es hran
        cases hran
        rfl
      | throw e => exact fun W es hran => absurd hran Ran.not_throw
      | exec s k ih =>
        intro W es hran
        cases hran with
        | exec he hk => exact ih _ _ _ hk
    exact hlift _ _ _ h
  | inr r =>
    obtain ⟨b, rfl, hb⟩ := Ran.of_map h
    cases r with
    | upload req =>
      obtain ⟨c, rfl, -⟩ := Ran.of_map hb
      rfl
    | patch req =>
      obtain ⟨c, rfl, -⟩ := Ran.of_map hb
      rfl
    | delete req => exact absurd rfl (hr req)

/-- **What a commit does to the URLs.** -/
theorem commit_urls {d₀ : ImageRows} {rs : List ImageSystemReq} {l : ImageLogged}
    (hl : LRun (imagePostgres (publicURL base)) (imageSystem srv texts) always (Logged.quiet d₀) rs l)
    {i : ℕ} {t : ImageTxn} {a : AllResponse ⊕ ImageResponse} (live : l.state.txs i = some t)
    (done : t.prog = .pure a) (fine : t.failed = false) :
    UrlChange base (imageURLs l.state.db.2)
      (imageURLs ((imagePostgres (publicURL base)).view l.state.db t.writes).2)
      (storedNames (l.log i)) (deletedURL a) := by
  have hran := hl.told.commit live done fine
  have hverified : (photoGuarantee (publicURL base)).Verified (imageSystem srv texts) :=
    imageSystem_verified srv texts
  have hsound := (RelyGuarantee.sound_quiet (G := photoGuarantee (publicURL base)) d₀).run hverified hl.run
  have hstep : Step (imagePostgres (publicURL base)) (imageSystem srv texts) l.state (some t.req) _ :=
    .commit i live done fine
  obtain ⟨L, heffect, -⟩ := hsound.commit_op hstep
  obtain ⟨r, hreq⟩ : ∃ r, t.req = r := ⟨_, rfl⟩
  rw [hreq] at hran heffect
  by_cases hup : ∃ req, r = .inr (.upload req)
  · obtain ⟨req, rfl⟩ := hup
    rw [deletedURL_eq_none (fun _ h => by cases h) hran]
    obtain ⟨_, -, hran₁⟩ := Ran.of_map hran
    obtain ⟨_, -, hran₂⟩ := Ran.of_map hran₁
    obtain ⟨key, row, hstored, hwrites, hurl⟩ := upload_ran hran₂
    rw [hwrites] at heffect
    rw [hstored, hwrites]
    change UrlChange base _ (imageURLs (l.state.db.2.insert row)) _ _
    have hfree : l.state.db.2.images.find? row.id = none := by
      obtain ⟨_, -, x, -, hnew, -, hfind⟩ := heffect
      have hx : x ∈ (l.state.db.2.insert row).images := by
        rw [mem_iff_find?]
        exact (hfind x.id).trans (if_pos rfl)
      rcases Table.mem_of_mem_insert hx with hold | rfl
      · exact absurd rfl (Table.find?_eq_none_iff.mp hnew x hold)
      · exact hnew
    rw [imageURLs_insert hfree, hurl]
    refine .shown row.id key ?_
    rw [imageURLs, hfree]
    rfl
  · rw [storedNames_eq_nil (hran.only (other_stores_nothing (fun req hr => hup ⟨req, hr⟩)))]
    by_cases hdel : ∃ req, r = .inr (.delete req)
    · obtain ⟨req, rfl⟩ := hdel
      have hends := RelyGuarantee.Sound.steady (RelyGuarantee.Steady.ends (fun _ => erases base)
        (fun _ => erases_stable) (fun r => imageSystem_erases r)) hverified hl.run i _ live fine
      change (photoGuarantee (publicURL base)).wp t.now t.prog _ _ _ _ at hends
      rw [done] at hends
      obtain ⟨_, rfl, hran₁⟩ := Ran.of_map hran
      obtain ⟨url, rfl, -⟩ := Ran.of_map hran₁
      obtain ⟨id, hurl, herase⟩ := hends _ (ImageRely.refl _ _) url rfl
      rw [herase, imageURLs_erase]
      exact .hidden id url hurl
    · rw [deletedURL_eq_none (fun req hr => hdel ⟨req, hr⟩) hran]
      have hsame : imageURLs ((imagePostgres (publicURL base)).view l.state.db t.writes).2
          = imageURLs l.state.db.2 := by
        cases r with
        | inl r => exact congrArg imageURLs heffect
        | inr r =>
          cases r with
          | upload req => exact absurd ⟨req, rfl⟩ hup
          | delete req => exact absurd ⟨req, rfl⟩ hdel
          | patch req =>
            obtain ⟨unitId, imageId, -, -, h⟩ := heffect
            exact h.imageURLs
      rw [hsame]
      exact .same

end Commits

/-! ### Where a name stands -/

/-- What there is to see of a name. -/
@[ext] structure Signs where
  /-- a photo has its URL -/
  shown : Prop
  /-- this connection's upload has stored it -/
  carried : ℕ → Prop
  /-- its deletion is under way -/
  owed : Prop
  /-- the bucket has it -/
  stored : Prop
  named : Prop
  unheard : Prop
  /-- it is logged, or abandoned -/
  orphaned : Prop

/-- Where a name may stand. -/
inductive Life where
  | unnamed
  /-- stored by the upload of a connection -/
  | carried (i : ℕ)
  | shown
  /-- of no photo, to be deleted -/
  | due
  /-- of no photo, and nobody will delete it -/
  | adrift
  /-- of a photo, and to be deleted all the same -/
  | struck
  /-- of a photo, and may have been deleted -/
  | broken

/-- The name stands there. -/
def Signs.At (s : Signs) : Life → Prop
  | .unnamed => ¬ s.shown ∧ (∀ j, ¬ s.carried j) ∧ ¬ s.owed ∧ ¬ s.stored ∧ ¬ s.named
  | .carried i => ¬ s.shown ∧ (∀ j, s.carried j ↔ j = i) ∧ ¬ s.owed ∧ s.stored ∧ s.named
  | .shown => s.shown ∧ (∀ j, ¬ s.carried j) ∧ ¬ s.owed ∧ s.stored ∧ s.named
  | .due => ¬ s.shown ∧ (∀ j, ¬ s.carried j) ∧ s.owed ∧ s.named
  | .adrift => ¬ s.shown ∧ (∀ j, ¬ s.carried j) ∧ ¬ s.owed ∧ (s.stored → s.orphaned) ∧ s.named
  | .struck => s.shown ∧ (∀ j, ¬ s.carried j) ∧ s.owed ∧ s.unheard ∧ s.named
  | .broken => s.shown ∧ (∀ j, ¬ s.carried j) ∧ ¬ s.owed ∧ s.unheard ∧ s.named

namespace Files

variable (base : String)

/-- The request of connection `j` has stored this name. -/
def Carried (f : Files) (j : ℕ) (key : String) : Prop :=
  f.sys.state.txs j ≠ none ∧ key ∈ storedNames (f.sys.log j)

def signs (f : Files) (key : String) : Signs where
  shown := ∃ id, imageURLs f.sys.state.db.2 id = some (publicURL base key)
  carried j := f.Carried j key
  owed := publicURL base key ∈ f.owed
  stored := key ∈ f.objects
  named := key ∈ f.named
  unheard := key ∈ f.unheard
  orphaned := publicURL base key ∈ f.logged ∨ publicURL base key ∈ f.abandoned

/-- Every photo has the URL of a name of its own, and every name stands somewhere. -/
structure Settled (f : Files) : Prop where
  formed : ∀ id url, imageURLs f.sys.state.db.2 id = some url → ∃ key, url = publicURL base key
  distinct : ∀ id id' url, imageURLs f.sys.state.db.2 id = some url →
    imageURLs f.sys.state.db.2 id' = some url → id = id'
  life : ∀ key, ∃ x, (signs base f key).At x

variable {base} {srv : Server} {texts : Texts} {f : Files}

/-- A step that leaves the photos alone. -/
theorem Settled.quiet (h : Settled base f) {f' : Files}
    (hdb : f'.sys.state.db.2 = f.sys.state.db.2)
    (hsigns : ∀ key, signs base f' key = signs base f key ∨ ∃ x, (signs base f' key).At x) :
    Settled base f' where
  formed := by rw [hdb]; exact h.formed
  distinct := by rw [hdb]; exact h.distinct
  life key := by
    rcases hsigns key with hsame | hx
    · rw [hsame]
      exact h.life key
    · exact hx

/-- Only a name that was never given stands nowhere else. -/
theorem Settled.unnamed (h : Settled base f) {key : String} (hkey : key ∉ f.named) :
    (signs base f key).At .unnamed := by
  obtain ⟨x, hx⟩ := h.life key
  cases x with
  | unnamed => exact hx
  | carried i => exact absurd hx.2.2.2.2 hkey
  | shown => exact absurd hx.2.2.2.2 hkey
  | due => exact absurd hx.2.2.2 hkey
  | adrift => exact absurd hx.2.2.2.2 hkey
  | struck => exact absurd hx.2.2.2.2 hkey
  | broken => exact absurd hx.2.2.2.2 hkey

/-- A name that an upload has stored is no photo's yet. -/
theorem Settled.carried (h : Settled base f) {i : ℕ} {key : String} (hkey : f.Carried i key) :
    (signs base f key).At (.carried i) := by
  obtain ⟨x, hx⟩ := h.life key
  cases x with
  | carried j =>
    obtain rfl := (hx.2.1 i).mp hkey
    exact hx
  | unnamed => exact absurd hkey (hx.2.1 i)
  | shown => exact absurd hkey (hx.2.1 i)
  | due => exact absurd hkey (hx.2.1 i)
  | adrift => exact absurd hkey (hx.2.1 i)
  | struck => exact absurd hkey (hx.2.1 i)
  | broken => exact absurd hkey (hx.2.1 i)

/-! ### The steps -/

theorem Settled.start (h : Settled base f) {i : ℕ} (r : ImageSystemReq) (now : ℤ)
    (free : f.sys.state.txs i = none) : Settled base (f.start srv texts i r now) := by
  refine h.quiet rfl (fun key => Or.inl ?_)
  ext j
  all_goals try exact Iff.rfl
  show (Function.update f.sys.state.txs i _ j ≠ none ∧
    key ∈ storedNames (Function.update f.sys.log i [] j)) ↔ _
  by_cases hj : j = i
  · subst hj
    rw [Function.update_self, Function.update_self]
    exact ⟨fun hc => absurd hc.2 List.not_mem_nil, fun hc => absurd free hc.1⟩
  · rw [Function.update_of_ne hj, Function.update_of_ne hj]
    exact Iff.rfl

/-- What a request carries after one more statement. -/
theorem carried_exec {i : ℕ} {t : ImageTxn} {st : ImageSystemStmt}
    {k : Except PgError (ImageSystemVal st) → ImageHandler (AllResponse ⊕ ImageResponse)} {o : Oracle}
    {landed : Bool} (live : f.sys.state.txs i = some t) (j : ℕ) (key : String) :
    (f.exec base i t st k o landed).Carried j key ↔
      f.Carried j key ∨ (j = i ∧ o.stored = true ∧ putName st = some key) := by
  show (Function.update f.sys.state.txs i _ j ≠ none ∧
    key ∈ storedNames (Function.update f.sys.log i _ j)) ↔ _
  by_cases hj : j = i
  · subst hj
    rw [Function.update_self, Function.update_self, storedNames_append, List.mem_append]
    have hlive : f.sys.state.txs j ≠ none := by
      rw [live]
      exact Option.some_ne_none t
    have hlast : key ∈ storedNames [⟨st, o, f.sys.state.db⟩] ↔
        o.stored = true ∧ putName st = some key := by
      rw [storedNames, List.mem_filterMap]
      simp
    rw [hlast]
    simp [Carried, hlive]
  · rw [Function.update_of_ne hj, Function.update_of_ne hj]
    exact ⟨Or.inl, fun hc => hc.resolve_right (fun h => hj h.1)⟩

theorem Settled.exec (h : Settled base f) {i : ℕ} {t : ImageTxn} {st : ImageSystemStmt}
    {k : Except PgError (ImageSystemVal st) → ImageHandler (AllResponse ⊕ ImageResponse)} {o : Oracle}
    {landed : Bool} (live : f.sys.state.txs i = some t)
    (fresh : ∀ key, putName st = some key → key ∉ f.named) :
    Settled base (f.exec base i t st k o landed) := by
  refine h.quiet rfl (fun key => ?_)
  by_cases hkey : putName st = some key
  · -- the name is new: it is carried from now on, or of no photo for good
    right
    obtain ⟨hshown, hcarried, howed, hstored, hnamed⟩ := h.unnamed (fresh key hkey)
    have hname : key ∈ (putName st).toList ++ f.named := by
      rw [hkey]
      exact List.mem_cons_self
    cases ho : o.stored with
    | true =>
      refine ⟨.carried i, hshown, fun j => ?_, howed, ?_, hname⟩
      · refine (carried_exec live j key).trans ?_
        rw [ho, hkey]
        simp [show ¬ f.Carried j key from hcarried j]
      · show key ∈ if o.stored || landed then (putName st).toList ++ f.objects else f.objects
        rw [ho, hkey]
        exact List.mem_cons_self
    | false =>
      refine ⟨.adrift, hshown, fun j hc => ?_, howed, fun hobject => Or.inr ?_, hname⟩
      · rcases (carried_exec live j key).mp hc with hc | ⟨-, hs, -⟩
        · exact hcarried j hc
        · rw [ho] at hs
          cases hs
      · change key ∈ if o.stored || landed then (putName st).toList ++ f.objects else f.objects at hobject
        show publicURL base key ∈ if !o.stored && landed then _ else f.abandoned
        rw [ho, hkey] at *
        cases landed with
        | true => exact List.mem_cons_self
        | false => exact absurd hobject hstored
  · left
    have hne : key ∉ (putName st).toList := fun hmem => hkey (Option.mem_toList.mp hmem)
    have hurl : publicURL base key ∉ (putName st).toList.map (publicURL base) := by
      intro hmem
      obtain ⟨key', hmem', heq⟩ := List.mem_map.mp hmem
      exact hne (publicURL_injective base heq ▸ hmem')
    ext j
    · exact Iff.rfl
    · exact (carried_exec live j key).trans ⟨fun hc => hc.resolve_right (fun h => hkey h.2.2), Or.inl⟩
    · exact Iff.rfl
    · show (key ∈ if o.stored || landed then (putName st).toList ++ f.objects else f.objects) ↔ _
      split_ifs
      · exact List.mem_append.trans (or_iff_right hne)
      · exact Iff.rfl
    · exact List.mem_append.trans (or_iff_right hne)
    · exact Iff.rfl
    · refine or_congr_right ?_
      show (publicURL base key ∈ if !o.stored && landed then _ else f.abandoned) ↔ _
      split_ifs
      · exact List.mem_append.trans (or_iff_right hurl)
      · exact Iff.rfl

/-- The request of connection `i` has ended, whatever became of its files. -/
structure Ended (f f' : Files) (i : ℕ) : Prop where
  txs : f'.sys.state.txs = Function.update f.sys.state.txs i none
  log : f'.sys.log = f.sys.log

section Ended

variable {f' : Files} {i : ℕ} {key : String}

theorem Ended.carried (h : Ended f f' i) (j : ℕ) : f'.Carried j key ↔ f.Carried j key ∧ j ≠ i := by
  rw [Carried, Carried, h.txs, h.log]
  by_cases hj : j = i
  · subst hj
    rw [Function.update_self]
    exact ⟨fun hc => absurd rfl hc.1, fun hc => absurd rfl hc.2⟩
  · rw [Function.update_of_ne hj]
    exact ⟨fun hc => ⟨hc, hj⟩, fun hc => hc.1⟩

/-- A name that the request has not stored. -/
theorem Ended.other (h : Ended f f' i) (hkey : key ∉ storedNames (f.sys.log i)) (j : ℕ) :
    f'.Carried j key ↔ f.Carried j key := by
  rw [h.carried]
  refine ⟨fun hc => hc.1, fun hc => ⟨hc, fun hj => ?_⟩⟩
  subst hj
  exact hkey hc.2

/-- A name that it has stored is no upload's now. -/
theorem Ended.nobody (h : Ended f f' i) (hkey : ∀ j, f.Carried j key ↔ j = i) (j : ℕ) :
    ¬ f'.Carried j key := by
  rw [h.carried, hkey]
  exact fun hc => hc.2 hc.1

theorem mem_map_publicURL {names : List String} :
    publicURL base key ∈ names.map (publicURL base) ↔ key ∈ names := by
  rw [List.mem_map]
  exact ⟨fun ⟨_, hmem, heq⟩ => publicURL_injective base heq ▸ hmem, fun h => ⟨key, h, rfl⟩⟩

end Ended

/-- A request fails: what it has stored is to be deleted. -/
theorem Settled.abort (h : Settled base f) {i : ℕ} (live : f.sys.state.txs i ≠ none) :
    Settled base (f.abort base i) := by
  have hend : Ended f (f.abort base i) i := ⟨rfl, rfl⟩
  refine h.quiet rfl (fun key => ?_)
  by_cases hkey : key ∈ storedNames (f.sys.log i)
  · right
    obtain ⟨hshown, hcarried, -, -, hnamed⟩ := h.carried (i := i) ⟨live, hkey⟩
    exact ⟨.due, hshown, hend.nobody hcarried,
      List.mem_append_left _ (mem_map_publicURL.mpr hkey), hnamed⟩
  · left
    ext j
    · exact Iff.rfl
    · exact hend.other hkey j
    · exact List.mem_append.trans (or_iff_right (fun hmem => hkey (mem_map_publicURL.mp hmem)))
    all_goals exact Iff.rfl

/-- The server stops: what the request has stored stays. -/
theorem Settled.crash (h : Settled base f) {i : ℕ} (live : f.sys.state.txs i ≠ none) :
    Settled base (f.crash base i) := by
  have hend : Ended f (f.crash base i) i := ⟨rfl, rfl⟩
  refine h.quiet rfl (fun key => ?_)
  by_cases hkey : key ∈ storedNames (f.sys.log i)
  · right
    obtain ⟨hshown, hcarried, howed, -, hnamed⟩ := h.carried (i := i) ⟨live, hkey⟩
    exact ⟨.adrift, hshown, hend.nobody hcarried, howed,
      fun _ => Or.inr (List.mem_append_left _ (mem_map_publicURL.mpr hkey)), hnamed⟩
  · left
    ext j
    · exact Iff.rfl
    · exact hend.other hkey j
    · exact Iff.rfl
    · exact Iff.rfl
    · exact Iff.rfl
    · exact Iff.rfl
    · refine or_congr_right ?_
      exact List.mem_append.trans (or_iff_right (fun hmem => hkey (mem_map_publicURL.mp hmem)))

/-! ### Commits -/

section Commit

variable {i : ℕ} {t : ImageTxn} {a : AllResponse ⊕ ImageResponse}

/-- What both kinds of commit do to the URLs, and to the names they leave alone. -/
theorem Settled.committed (h : Settled base f) (live : f.sys.state.txs i ≠ none) {f' : Files}
    (hsys : f'.sys = f.committed base i t)
    (hurls : UrlChange base (imageURLs f.sys.state.db.2) (imageURLs (f.committed base i t).state.db.2)
      (storedNames (f.sys.log i)) (deletedURL a))
    (hlife : ∀ key, (∃ x, (signs base f' key).At x)) : Settled base f' where
  formed := by
    rw [hsys]
    exact hurls.formed h.formed
  distinct := by
    rw [hsys]
    refine hurls.distinct h.distinct (fun key hkey id hid => ?_)
    exact (h.carried (i := i) ⟨live, hkey⟩).1 ⟨id, hid⟩
  life := hlife

/-- **A commit that is heard.** -/
theorem Settled.commit (h : Settled base f) (live : f.sys.state.txs i ≠ none)
    (hurls : UrlChange base (imageURLs f.sys.state.db.2) (imageURLs (f.committed base i t).state.db.2)
      (storedNames (f.sys.log i)) (deletedURL a)) : Settled base (f.commit base i t a) := by
  have hend : Ended f (f.commit base i t a) i := ⟨rfl, rfl⟩
  refine h.committed live rfl hurls (fun key => ?_)
  have hshown := hurls.shown_iff h.distinct key
  by_cases hkey : key ∈ storedNames (f.sys.log i)
  · obtain ⟨-, hcarried, howed, hstored, hnamed⟩ := h.carried (i := i) ⟨live, hkey⟩
    obtain ⟨hgone, -⟩ := hurls.gone_of_mem hkey
    refine ⟨.shown, hshown.mpr ⟨Or.inr hkey, ?_⟩, hend.nobody hcarried, ?_, hstored, hnamed⟩
    · rw [hgone]
      nofun
    · show publicURL base key ∉ (deletedURL a).toList ++ f.owed
      rw [hgone]
      exact howed
  · by_cases hgone : deletedURL a = some (publicURL base key)
    · have howed : publicURL base key ∈ (deletedURL a).toList ++ f.owed := by
        rw [hgone]
        exact List.mem_cons_self
      have hnot : ¬ (signs base (f.commit base i t a) key).shown := fun hs => (hshown.mp hs).2 hgone
      have hold : (signs base f key).shown := hurls.shown_of_gone hgone
      obtain ⟨x, hx⟩ := h.life key
      cases x with
      | shown => exact ⟨.due, hnot, fun j => (hend.other hkey j).not.mpr (hx.2.1 j), howed, hx.2.2.2.2⟩
      | struck => exact ⟨.due, hnot, fun j => (hend.other hkey j).not.mpr (hx.2.1 j), howed, hx.2.2.2.2⟩
      | broken => exact ⟨.due, hnot, fun j => (hend.other hkey j).not.mpr (hx.2.1 j), howed, hx.2.2.2.2⟩
      | unnamed => exact absurd hold hx.1
      | carried j => exact absurd hold hx.1
      | due => exact absurd hold hx.1
      | adrift => exact absurd hold hx.1
    · obtain ⟨x, hx⟩ := h.life key
      refine ⟨x, ?_⟩
      have hsame : signs base (f.commit base i t a) key = signs base f key := by
        ext j
        · exact hshown.trans ⟨fun hs => hs.1.resolve_right hkey, fun hs => ⟨Or.inl hs, hgone⟩⟩
        · exact hend.other hkey j
        · refine List.mem_append.trans (or_iff_right (fun hmem => hgone ?_))
          exact Option.mem_toList.mp hmem
        all_goals exact Iff.rfl
      rw [hsame]
      exact hx

/-- **A commit that is not heard.**  The photo of an upload stands, and its file is deleted. -/
theorem Settled.commitUnheard (h : Settled base f) (live : f.sys.state.txs i ≠ none)
    (hurls : UrlChange base (imageURLs f.sys.state.db.2) (imageURLs (f.committed base i t).state.db.2)
      (storedNames (f.sys.log i)) (deletedURL a)) : Settled base (f.commitUnheard base i t a) := by
  have hend : Ended f (f.commitUnheard base i t a) i := ⟨rfl, rfl⟩
  refine h.committed live rfl hurls (fun key => ?_)
  have hshown := hurls.shown_iff h.distinct key
  by_cases hkey : key ∈ storedNames (f.sys.log i)
  · obtain ⟨-, hcarried, -, -, hnamed⟩ := h.carried (i := i) ⟨live, hkey⟩
    obtain ⟨hgone, -⟩ := hurls.gone_of_mem hkey
    refine ⟨.struck, hshown.mpr ⟨Or.inr hkey, ?_⟩, hend.nobody hcarried,
      List.mem_append_left _ (mem_map_publicURL.mpr hkey), List.mem_append_left _ hkey, hnamed⟩
    rw [hgone]
    nofun
  · have howed : publicURL base key ∈ (f.commitUnheard base i t a).owed ↔
        publicURL base key ∈ f.owed :=
      List.mem_append.trans (or_iff_right (fun hmem => hkey (mem_map_publicURL.mp hmem)))
    by_cases hgone : deletedURL a = some (publicURL base key)
    · have habandoned : publicURL base key ∈ (deletedURL a).toList ++ f.abandoned := by
        rw [hgone]
        exact List.mem_cons_self
      have hnot : ¬ (signs base (f.commitUnheard base i t a) key).shown :=
        fun hs => (hshown.mp hs).2 hgone
      have hold : (signs base f key).shown := hurls.shown_of_gone hgone
      obtain ⟨x, hx⟩ := h.life key
      cases x with
      | shown =>
        exact ⟨.adrift, hnot, fun j => (hend.other hkey j).not.mpr (hx.2.1 j), howed.not.mpr hx.2.2.1,
          fun _ => Or.inr habandoned, hx.2.2.2.2⟩
      | struck =>
        exact ⟨.due, hnot, fun j => (hend.other hkey j).not.mpr (hx.2.1 j), howed.mpr hx.2.2.1, hx.2.2.2.2⟩
      | broken =>
        exact ⟨.adrift, hnot, fun j => (hend.other hkey j).not.mpr (hx.2.1 j), howed.not.mpr hx.2.2.1,
          fun _ => Or.inr habandoned, hx.2.2.2.2⟩
      | unnamed => exact absurd hold hx.1
      | carried j => exact absurd hold hx.1
      | due => exact absurd hold hx.1
      | adrift => exact absurd hold hx.1
    · obtain ⟨x, hx⟩ := h.life key
      refine ⟨x, ?_⟩
      have hsame : signs base (f.commitUnheard base i t a) key = signs base f key := by
        ext j
        · exact hshown.trans ⟨fun hs => hs.1.resolve_right hkey, fun hs => ⟨Or.inl hs, hgone⟩⟩
        · exact hend.other hkey j
        · exact howed
        · exact Iff.rfl
        · exact Iff.rfl
        · exact List.mem_append.trans (or_iff_right hkey)
        · refine or_congr_right (List.mem_append.trans (or_iff_right (fun hmem => hgone ?_)))
          exact Option.mem_toList.mp hmem
      rw [hsame]
      exact hx

end Commit

/-! ### Deletions -/

/-- Only the name of the URL leaves the bucket. -/
theorem mem_without (f : Files) {url key : String} (h : publicURL base key ≠ url) :
    key ∈ f.without base url ↔ key ∈ f.objects := by
  rw [without]
  cases hname : objectKey base url with
  | none => exact Iff.rfl
  | some name =>
    have hother : key ≠ name := fun he => h (he ▸ publicURL_of_objectKey hname)
    show key ∈ f.objects.filter _ ↔ key ∈ f.objects
    rw [List.mem_filter, decide_eq_true_eq]
    exact and_iff_left hother

/-- And that one does. -/
theorem not_mem_without (f : Files) {key name : String}
    (h : objectKey base (publicURL base key) = some name) : key ∉ f.without base (publicURL base key) := by
  have hsame : key = name := (publicURL_injective base (publicURL_of_objectKey h)).symm
  rw [without, h]
  show key ∉ f.objects.filter _
  rw [List.mem_filter, decide_eq_true_eq]
  exact fun hmem => hmem.2 hsame

/-- What `deleteObject` leaves of another name. -/
theorem deleteObject_other (f : Files) {url key : String} (how : DeleteEnd) (h : publicURL base key ≠ url) :
    signs base (f.deleteObject base url how) key = signs base f key := by
  have howed : publicURL base key ∈ f.owed.erase url ↔ publicURL base key ∈ f.owed :=
    List.mem_erase_of_ne h
  have hlist : ∀ l : List String, publicURL base key ∈ url :: l ↔ publicURL base key ∈ l :=
    fun l => List.mem_cons.trans (or_iff_right h)
  have hmaybe : ∀ gone : Bool, key ∈ (if gone then f.without base url else f.objects) ↔ key ∈ f.objects := by
    intro gone
    split_ifs
    · exact mem_without f h
    · exact Iff.rfl
  cases how with
  | done =>
    ext j
    · exact Iff.rfl
    · exact Iff.rfl
    · exact howed
    · exact mem_without f h
    · exact Iff.rfl
    · exact Iff.rfl
    · refine or_congr_left ?_
      show publicURL base key ∈ (if (objectKey base url).isSome then f.logged else url :: f.logged) ↔ _
      split_ifs
      · exact Iff.rfl
      · exact hlist f.logged
  | failed gone =>
    ext j
    · exact Iff.rfl
    · exact Iff.rfl
    · exact howed
    · exact hmaybe gone
    · exact Iff.rfl
    · exact Iff.rfl
    · exact or_congr_left (hlist f.logged)
  | cut gone =>
    ext j
    · exact Iff.rfl
    · exact Iff.rfl
    · exact howed
    · exact hmaybe gone
    · exact Iff.rfl
    · exact Iff.rfl
    · exact or_congr_right (hlist f.abandoned)

/-- And of its own: the file is gone, or in a list. -/
theorem deleteObject_own (f : Files) (key : String) (how : DeleteEnd)
    (hstored : (signs base (f.deleteObject base (publicURL base key) how) key).stored) :
    (signs base (f.deleteObject base (publicURL base key) how) key).orphaned := by
  cases how with
  | done =>
    cases hname : objectKey base (publicURL base key) with
    | none =>
      refine Or.inl ?_
      show publicURL base key ∈ if (objectKey base (publicURL base key)).isSome then f.logged else _
      rw [hname]
      exact List.mem_cons_self
    | some name => exact absurd hstored (not_mem_without f hname)
  | failed gone => exact Or.inl List.mem_cons_self
  | cut gone => exact Or.inr List.mem_cons_self

/-- A deletion ends what a name was due, whether it has succeeded or not. -/
theorem Settled.delete (h : Settled base f) {url : String} (howed : url ∈ f.owed) (how : DeleteEnd) :
    Settled base (f.deleteObject base url how) := by
  refine h.quiet (by rw [deleteObject_sys]) (fun key => ?_)
  by_cases hurl : publicURL base key = url
  · right
    have hframe : (f.deleteObject base url how).owed = f.owed.erase url ∧
        (f.deleteObject base url how).named = f.named ∧
        (f.deleteObject base url how).unheard = f.unheard :=
      deleteObject_frame url how
    obtain ⟨howed', hnamed', hunheard'⟩ := hframe
    have hcarried : ∀ j, (f.deleteObject base url how).Carried j key ↔ f.Carried j key := by
      intro j
      rw [Carried, Carried, deleteObject_sys]
    have hshown : (signs base (f.deleteObject base url how) key).shown ↔ (signs base f key).shown := by
      simp only [signs, deleteObject_sys]
    have hnow : (signs base f key).owed := by
      show publicURL base key ∈ f.owed
      rw [hurl]
      exact howed
    have hstill : (signs base (f.deleteObject base url how) key).owed ↔ url ∈ f.owed.erase url := by
      simp only [signs, hurl, howed']
    obtain ⟨x, hx⟩ := h.life key
    cases x with
    | due =>
      obtain ⟨hs, hc, -, hn⟩ := hx
      have hn' : key ∈ (f.deleteObject base url how).named := hnamed' ▸ hn
      by_cases hagain : url ∈ f.owed.erase url
      · exact ⟨.due, hshown.not.mpr hs, fun j => (hcarried j).not.mpr (hc j), hstill.mpr hagain, hn'⟩
      · exact ⟨.adrift, hshown.not.mpr hs, fun j => (hcarried j).not.mpr (hc j),
          hstill.not.mpr hagain, hurl ▸ deleteObject_own f key how, hn'⟩
    | struck =>
      obtain ⟨hs, hc, -, hu, hn⟩ := hx
      have hn' : key ∈ (f.deleteObject base url how).named := hnamed' ▸ hn
      have hu' : key ∈ (f.deleteObject base url how).unheard := hunheard' ▸ hu
      by_cases hagain : url ∈ f.owed.erase url
      · exact ⟨.struck, hshown.mpr hs, fun j => (hcarried j).not.mpr (hc j), hstill.mpr hagain, hu', hn'⟩
      · exact ⟨.broken, hshown.mpr hs, fun j => (hcarried j).not.mpr (hc j), hstill.not.mpr hagain,
          hu', hn'⟩
    | unnamed => exact absurd hnow hx.2.2.1
    | carried i => exact absurd hnow hx.2.2.1
    | shown => exact absurd hnow hx.2.2.1
    | adrift => exact absurd hnow hx.2.2.1
    | broken => exact absurd hnow hx.2.2.1
  · exact Or.inl (deleteObject_other f how hurl)

/-! ### The run -/

/-- A step takes every name from one place to another. -/
theorem Settled.step {f' : Files} (h : Settled base f) {d₀ : ImageRows} {rs : List ImageSystemReq}
    (hl : LRun (imagePostgres (publicURL base)) (imageSystem srv texts) always (Logged.quiet d₀) rs f.sys)
    (hstep : Step base srv texts f f') : Settled base f' := by
  cases hstep with
  | start i r now free => exact h.start r now free
  | exec i o landed live next fine free fresh => exact h.exec live fresh
  | refused i live next bad =>
    refine h.quiet rfl (fun key => Or.inl ?_)
    ext j
    · exact Iff.rfl
    · show (Function.update f.sys.state.txs i _ j ≠ none ∧ _) ↔ (f.sys.state.txs j ≠ none ∧ _)
      by_cases hj : j = i
      · subst hj
        rw [Function.update_self, live]
        simp only [ne_eq, reduceCtorEq, not_false_eq_true, true_and]
        exact Iff.rfl
      · rw [Function.update_of_ne hj]
        rfl
    all_goals exact Iff.rfl
  | commit i live done fine => exact h.commit (by rw [live]; nofun) (commit_urls hl live done fine)
  | unheard i live done fine =>
    exact h.commitUnheard (by rw [live]; nofun) (commit_urls hl live done fine)
  | abort i live => exact h.abort (by rw [live]; nofun)
  | crash i live => exact h.crash (by rw [live]; nofun)
  | delete url how howed => exact h.delete howed how

/-- The photos before the server starts: each has its file, and no two have the same one. -/
structure Tidy (base : String) (d : ImageRows) (objects : List String) : Prop where
  filed : ∀ i ∈ d.2.images, ∃ key ∈ objects, i.url = publicURL base key
  distinct : ∀ i ∈ d.2.images, ∀ j ∈ d.2.images, i.url = j.url → i = j
  used : ∀ key ∈ objects, ∃ i ∈ d.2.images, i.url = publicURL base key

theorem imageURLs_eq_some {t : ImageTables} {id : ℕ} {url : String} :
    imageURLs t id = some url ↔ ∃ i ∈ t.images, i.id = id ∧ i.url = url := by
  rw [imageURLs, Option.map_eq_some_iff]
  simp only [Table.find?_eq_some_iff, and_assoc]

theorem Tidy.settled {d : ImageRows} {objects : List String} (h : Tidy base d objects) :
    Settled base (opened d objects) where
  formed id url hid := by
    obtain ⟨i, hi, -, rfl⟩ := imageURLs_eq_some.mp hid
    obtain ⟨key, -, hkey⟩ := h.filed i hi
    exact ⟨key, hkey⟩
  distinct id id' url hid hid' := by
    obtain ⟨i, hi, rfl, rfl⟩ := imageURLs_eq_some.mp hid
    obtain ⟨j, hj, rfl, hurl⟩ := imageURLs_eq_some.mp hid'
    rw [h.distinct i hi j hj hurl.symm]
  life key := by
    by_cases hkey : key ∈ objects
    · obtain ⟨i, hi, hurl⟩ := h.used key hkey
      exact ⟨.shown, ⟨i.id, imageURLs_eq_some.mpr ⟨i, hi, rfl, hurl⟩⟩, fun j hc => hc.1 rfl,
        List.not_mem_nil, hkey, hkey⟩
    · refine ⟨.unnamed, ?_, fun j hc => hc.1 rfl, List.not_mem_nil, hkey, hkey⟩
      rintro ⟨id, hid⟩
      obtain ⟨i, hi, -, hurl⟩ := imageURLs_eq_some.mp hid
      obtain ⟨key', hkey', hurl'⟩ := h.filed i hi
      rw [publicURL_injective base (hurl.symm.trans hurl')] at hkey
      exact hkey hkey'

/-- **Runs keep every name in its place.** -/
theorem Reaches.settled {d : ImageRows} {objects : List String} (h₀ : Tidy base d objects)
    (h : Reaches base srv texts (opened d objects) f) : Settled base f := by
  induction h with
  | refl => exact h₀.settled
  | tail hrun hstep ih =>
    obtain ⟨rs, hl⟩ := Reaches.run hrun
    exact ih.step hl hstep

end Files

/-- **No photo without its file.**  In every state that uploads, edits and deletes reach, however
their statements interleave and wherever they fail: the URL of each photo is that of one file, which
the bucket has, unless the commit of its upload was not heard; and whatever the bucket has is the
file of a photo, of an upload under way or of a deletion under way, or its deletion has failed and is
logged, or it was abandoned. -/
theorem photos_have_files {base : String} {srv : Server} {texts : Texts} {d : ImageRows}
    {objects : List String} (h₀ : Files.Tidy base d objects) {f : Files}
    (h : Files.Reaches base srv texts (Files.opened d objects) f) :
    (∀ i ∈ f.sys.state.db.2.images, ∃ key, i.url = publicURL base key ∧
      (key ∈ f.objects ∨ key ∈ f.unheard) ∧
      (i.url ∈ f.owed → key ∈ f.unheard) ∧ (∀ j, ¬ f.Carried j key) ∧
      ∀ j ∈ f.sys.state.db.2.images, j.url = i.url → j = i) ∧
    ∀ key ∈ f.objects, (∃ i ∈ f.sys.state.db.2.images, i.url = publicURL base key) ∨
      (∃ j, f.Carried j key) ∨ publicURL base key ∈ f.owed ∨ publicURL base key ∈ f.logged ∨
      publicURL base key ∈ f.abandoned := by
  have hsettled := Files.Reaches.settled h₀ h
  constructor
  · intro i hi
    have hid := Files.imageURLs_eq_some.mpr ⟨i, hi, rfl, rfl⟩
    obtain ⟨key, hkey⟩ := hsettled.formed _ _ hid
    have hone : ∀ j ∈ f.sys.state.db.2.images, j.url = i.url → j = i := by
      intro j hj hurl
      have hsame := hsettled.distinct _ _ _ (Files.imageURLs_eq_some.mpr ⟨j, hj, rfl, hurl⟩) hid
      exact Table.eq_of_key_eq hj hi hsame
    have hshown : (Files.signs base f key).shown := ⟨i.id, hkey ▸ hid⟩
    refine ⟨key, hkey, ?_⟩
    rw [hkey]
    obtain ⟨x, hx⟩ := hsettled.life key
    cases x with
    | shown => exact ⟨Or.inl hx.2.2.2.1, fun howed => absurd howed hx.2.2.1, hx.2.1, hkey ▸ hone⟩
    | struck => exact ⟨Or.inr hx.2.2.2.1, fun _ => hx.2.2.2.1, hx.2.1, hkey ▸ hone⟩
    | broken => exact ⟨Or.inr hx.2.2.2.1, fun _ => hx.2.2.2.1, hx.2.1, hkey ▸ hone⟩
    | unnamed => exact absurd hshown hx.1
    | carried j => exact absurd hshown hx.1
    | due => exact absurd hshown hx.1
    | adrift => exact absurd hshown hx.1
  · intro key hkey
    have hphoto : (Files.signs base f key).shown → ∃ i ∈ f.sys.state.db.2.images,
        i.url = publicURL base key := by
      rintro ⟨id, hid⟩
      obtain ⟨i, hi, -, hurl⟩ := Files.imageURLs_eq_some.mp hid
      exact ⟨i, hi, hurl⟩
    obtain ⟨x, hx⟩ := hsettled.life key
    cases x with
    | unnamed => exact absurd hkey hx.2.2.2.1
    | carried j => exact Or.inr (Or.inl ⟨j, (hx.2.1 j).mpr rfl⟩)
    | shown => exact Or.inl (hphoto hx.1)
    | due => exact Or.inr (Or.inr (Or.inl hx.2.2.1))
    | adrift => exact Or.inr (Or.inr (Or.inr (hx.2.2.2.1 hkey)))
    | struck => exact Or.inl (hphoto hx.1)
    | broken => exact Or.inl (hphoto hx.1)

/-! ### A commit that is not heard -/

/-- An upload of the chalet's photo; its commit is heard or not. -/
def uploadMoves (i : ℕ) (heard : Bool) : List Files.Move :=
  .start i (.inr photoUpload) (noonOf newYear) ::
    List.replicate 6 (.exec i (oracleAt i (noonOf newYear))) ++ [.commit i heard]

/-- Two photos are uploaded and the first is deleted, with its file. -/
def tidyMoves : List Files.Move :=
  uploadMoves 1 true ++ uploadMoves 2 true ++
    [.start 3 (.inr (.delete ⟨some 1, some 1⟩)) (noonOf newYear),
      .exec 3 (oracleAt 3 (noonOf newYear)), .commit 3 true,
      .delete (publicURL "/m" ("units/" ++ uuidString 1 ++ "/" ++ uuidString 1 ++ ".jpg"))]

theorem tidy_coast : Files.Tidy "/m" coastPhotos [] where
  filed i hi := absurd hi (Table.not_mem_empty i)
  distinct i hi := absurd hi (Table.not_mem_empty i)
  used _ hkey := absurd hkey List.not_mem_nil

theorem photos_have_files_tidy : ∃ f : Files,
    Files.Reaches "/m" winterServer plainTexts (Files.opened coastPhotos []) f ∧
    f.objects = ["units/" ++ uuidString 1 ++ "/" ++ uuidString 2 ++ ".jpg"] ∧
    ∀ i ∈ f.sys.state.db.2.images, ∃ key ∈ f.objects, i.url = publicURL "/m" key := by
  have hplayed : (Files.plays "/m" winterServer plainTexts 4 tidyMoves (Files.opened coastPhotos [])).any
      (fun f => decide (f.unheard = [] ∧
        f.objects = ["units/" ++ uuidString 1 ++ "/" ++ uuidString 2 ++ ".jpg"])) = true := by
    decide +kernel
  obtain ⟨f, hrun, htest⟩ := Files.Reaches.of_plays 4 hplayed
  obtain ⟨hheard, hobjects⟩ := of_decide_eq_true htest
  refine ⟨f, hrun, hobjects, fun i hi => ?_⟩
  obtain ⟨key, hurl, hstored, -⟩ := (photos_have_files tidy_coast hrun).1 i hi
  rw [hheard] at hstored
  exact ⟨key, hstored.resolve_right List.not_mem_nil, hurl⟩

/-- **What is not heard is lost**: the photo stands, and the bucket is empty. -/
theorem unheard_photo_lost : ∃ f : Files,
    Files.Reaches "/m" winterServer plainTexts (Files.opened coastPhotos []) f ∧
    f.objects = [] ∧ f.sys.state.db.2.images.rows.length = 1 := by
  have hplayed : (Files.plays "/m" winterServer plainTexts 4 (uploadMoves 1 false ++
      [.delete (publicURL "/m" ("units/" ++ uuidString 1 ++ "/" ++ uuidString 1 ++ ".jpg"))])
      (Files.opened coastPhotos [])).any
      (fun f => decide (f.objects = [] ∧ f.sys.state.db.2.images.rows.length = 1)) = true := by
    decide +kernel
  obtain ⟨f, hrun, htest⟩ := Files.Reaches.of_plays 4 hplayed
  exact ⟨f, hrun, of_decide_eq_true htest⟩

end Sahel

import Sahel.Http.AdminImages
import Sahel.Library.Faultless
import Sahel.Library.Schedule
import Sahel.Model.World

/-!
# One cover for each unit

Uploads and patches decide the cover under the lock of the unit's row; deletes take no such lock, and
may remove the cover, or the photo that is patched, between any two statements.

* `ImageRely` is what others may do to the photos while a transaction holds its locks: to those of a
  locked unit nothing but delete them, to a locked photo nothing at all;
* `ImageEffect` is what each request does to the photos, in one step at its commit;
* `imageSystem_verified` and `imageSystem_never`: each handler commits its effect, and no statement of
  it fails on `unit_images_one_cover`;
* **`one_cover`** is the result.
-/

set_option autoImplicit false

namespace Sahel

open ReadCommitted KeyedTable

/-! ### Effects -/

/-- The photo is no cover of the unit any more. -/
def withoutCover (unitId : ℕ) (i : UnitImageRow) : UnitImageRow :=
  if i.unitId = unitId then { i with isCover := false } else i

/-- A photo is added, a cover only where there is none. -/
def Uploaded (unitId : ℕ) (t t' : ImageTables) : Prop :=
  ∃ i : UnitImageRow, i.unitId = unitId ∧ t.images.find? i.id = none ∧
    (i.isCover → ∀ j ∈ t.images, j.unitId = unitId → ¬ j.isCover) ∧
    ∀ id, t'.images.find? id = if i.id = id then some i else t.images.find? id

/-- The body is applied to a photo of the unit; as a cover it replaces any other. -/
def Retouched (body : ImageInput) (unitId imageId : ℕ) (t t' : ImageTables) : Prop :=
  ∃ i i' : UnitImageRow, t.images.find? imageId = some i ∧ i.unitId = unitId ∧ body.apply i = .ok i' ∧
    ∀ id, t'.images.find? id = if imageId = id then some i'
      else (t.images.find? id).map (fun j => if i'.isCover then withoutCover unitId j else j)

/-- A photo of the unit is gone. -/
def Removed (unitId imageId : ℕ) (t t' : ImageTables) : Prop :=
  ∃ i : UnitImageRow, t.images.find? imageId = some i ∧ i.unitId = unitId ∧
    ∀ id, t'.images.find? id = if imageId = id then none else t.images.find? id

/-- What a request does to the photos. -/
def ImageEffect : ImageSystemReq → ImageTables → ImageTables → Prop
  | .inl _, t, t' => t' = t
  | .inr (.upload req), t, t' => ∃ unitId, req.unitId = some unitId ∧ Uploaded unitId t t'
  | .inr (.patch req), t, t' => ∃ unitId imageId, req.unitId = some unitId ∧
      req.imageId = some imageId ∧ Retouched req.body unitId imageId t t'
  | .inr (.delete req), t, t' => ∃ unitId imageId, req.unitId = some unitId ∧
      req.imageId = some imageId ∧ Removed unitId imageId t t'

section Effects

variable {t t' : ImageTables}

theorem withoutCover_isCover {unitId : ℕ} {i : UnitImageRow} (h : (withoutCover unitId i).isCover) :
    i.unitId ≠ unitId ∧ withoutCover unitId i = i := by
  by_cases hu : i.unitId = unitId
  · rw [withoutCover, if_pos hu] at h
    cases h
  · exact ⟨hu, if_neg hu⟩

theorem mem_iff_find? {images : UnitImages} {i : UnitImageRow} :
    i ∈ images ↔ images.find? i.id = some i := by
  rw [Table.find?_eq_some_iff]
  exact (and_iff_left rfl).symm

theorem Uploaded.oneCover {unitId : ℕ} (h : Uploaded unitId t t') (ht : OneCover t.images) :
    OneCover t'.images := by
  obtain ⟨i, hunit, hnew, hfirst, hfind⟩ := h
  have hmem : ∀ x ∈ t'.images, x = i ∨ x ∈ t.images := by
    intro x hx
    rw [mem_iff_find?, hfind] at hx
    split_ifs at hx
    · exact Or.inl (Option.some.inj hx).symm
    · exact Or.inr (mem_iff_find?.mpr hx)
  intro x hx y hy hxc hyc hxy
  rcases hmem x hx with rfl | hx
  · rcases hmem y hy with rfl | hy
    · rfl
    · exact absurd hyc (hfirst hxc y hy (hxy.symm.trans hunit))
  · rcases hmem y hy with rfl | hy
    · exact absurd hxc (hfirst hyc x hx (hxy.trans hunit))
    · exact ht x hx y hy hxc hyc hxy

theorem Removed.oneCover {unitId imageId : ℕ} (h : Removed unitId imageId t t')
    (ht : OneCover t.images) : OneCover t'.images := by
  obtain ⟨i, -, -, hfind⟩ := h
  have hmem : ∀ x ∈ t'.images, x ∈ t.images := by
    intro x hx
    rw [mem_iff_find?, hfind] at hx
    split_ifs at hx
    exact mem_iff_find?.mpr hx
  exact fun x hx y hy => ht x (hmem x hx) y (hmem y hy)

/-- What `apply` leaves alone, and what it sets. -/
theorem ImageInput.apply_ok {b : ImageInput} {i i' : UnitImageRow} (h : b.apply i = .ok i') :
    i' = b.edit i := (problemsErr_ok h).2

/-- The rows after a patch. -/
theorem Retouched.mem {body : ImageInput} {unitId imageId : ℕ} (h : Retouched body unitId imageId t t') :
    ∃ i' : UnitImageRow, i'.id = imageId ∧ i'.unitId = unitId ∧ t'.images.find? imageId = some i' ∧
      (body.isCover = .value true → i'.isCover = true) ∧
      ∀ x ∈ t'.images, x.isCover → x = i' ∨ (x ∈ t.images ∧ (i'.isCover → x.unitId ≠ unitId)) := by
  obtain ⟨i, i', hi, hunit, happly, hfind⟩ := h
  rw [ImageInput.apply_ok happly] at hfind
  refine ⟨body.edit i, (Table.mem_of_find? hi).2, hunit, by rw [hfind, if_pos rfl], fun hc => ?_, ?_⟩
  · show setField i.isCover body.isCover = true
    rw [hc]
    rfl
  · intro x hx hxc
    rw [mem_iff_find?, hfind] at hx
    by_cases hid : imageId = x.id
    · rw [if_pos hid] at hx
      exact Or.inl (Option.some.inj hx).symm
    · rw [if_neg hid] at hx
      obtain ⟨j, hj, rfl⟩ := Option.map_eq_some_iff.mp hx
      refine Or.inr ?_
      by_cases hc : (body.edit i).isCover = true
      · rw [if_pos hc] at hxc hj ⊢
        obtain ⟨hne, heq⟩ := withoutCover_isCover hxc
        rw [heq] at hj ⊢
        exact ⟨mem_iff_find?.mpr hj, fun _ => hne⟩
      · rw [if_neg hc] at hj ⊢
        exact ⟨mem_iff_find?.mpr hj, fun hc' => absurd hc' hc⟩

theorem Retouched.oneCover {body : ImageInput} {unitId imageId : ℕ}
    (h : Retouched body unitId imageId t t') (ht : OneCover t.images) : OneCover t'.images := by
  obtain ⟨i', -, hunit, -, -, hmem⟩ := h.mem
  intro x hx y hy hxc hyc hxy
  rcases hmem x hx hxc with rfl | ⟨hx, hxu⟩
  · rcases hmem y hy hyc with rfl | ⟨hy, hyu⟩
    · rfl
    · exact absurd (hxy.symm.trans hunit) (hyu hxc)
  · rcases hmem y hy hyc with rfl | ⟨hy, hyu⟩
    · exact absurd (hxy.trans hunit) (hxu hyc)
    · exact ht x hx y hy hxc hyc hxy

/-- **Every effect keeps one cover** for each unit. -/
theorem ImageEffect.oneCover {r : ImageSystemReq} (h : ImageEffect r t t') (ht : OneCover t.images) :
    OneCover t'.images := by
  cases r with
  | inl r =>
    cases h
    exact ht
  | inr r =>
    cases r with
    | upload req =>
      obtain ⟨unitId, -, h⟩ := h
      exact h.oneCover ht
    | patch req =>
      obtain ⟨unitId, imageId, -, -, h⟩ := h
      exact h.oneCover ht
    | delete req =>
      obtain ⟨unitId, imageId, -, -, h⟩ := h
      exact h.oneCover ht

/-- A photo that was made the cover is the only one. -/
theorem Retouched.onlyCover {body : ImageInput} {unitId imageId : ℕ}
    (h : Retouched body unitId imageId t t') (hc : body.isCover = .value true) :
    ∃ i ∈ t'.images, i.id = imageId ∧ i.unitId = unitId ∧ i.isCover ∧
      ∀ j ∈ t'.images, j.unitId = unitId → j.isCover → j = i := by
  obtain ⟨i', hid, hunit, hfind, hcover, hmem⟩ := h.mem
  refine ⟨i', (Table.mem_of_find? hfind).1, hid, hunit, hcover hc, fun j hj hju hjc => ?_⟩
  rcases hmem j hj hjc with rfl | ⟨-, hne⟩
  · rfl
  · exact absurd hju (hne (hcover hc))

/-- Another photo stays as it is, or was the cover and is none any more. -/
theorem Retouched.others {body : ImageInput} {unitId imageId : ℕ}
    (h : Retouched body unitId imageId t t') {id : ℕ} (hne : id ≠ imageId) :
    t'.images.find? id = t.images.find? id ∨
      ∃ j, t.images.find? id = some j ∧ j.unitId = unitId ∧ j.isCover ∧
        t'.images.find? id = some { j with isCover := false } := by
  obtain ⟨i, i', -, -, -, hfind⟩ := h
  rw [hfind, if_neg (Ne.symm hne)]
  cases hj : t.images.find? id with
  | none => exact Or.inl rfl
  | some j =>
    rw [Option.map_some]
    by_cases hc : i'.isCover = true
    · rw [if_pos hc]
      by_cases hu : j.unitId = unitId
      · rw [withoutCover, if_pos hu]
        by_cases hjc : j.isCover = true
        · exact Or.inr ⟨j, rfl, hu, hjc, rfl⟩
        · rw [← Bool.eq_false_iff.mpr hjc]
          exact Or.inl rfl
      · rw [withoutCover, if_neg hu]
        exact Or.inl rfl
    · rw [if_neg hc]
      exact Or.inl rfl

end Effects

/-! ### Interference -/

/-- The lock of a unit's row. -/
def unitLock (id : ℕ) : ImageSystemLock := .inl (.inl (.unit id))

/-- The lock of a photo's row. -/
def imageLock (id : ℕ) : ImageSystemLock := .inr (.image id)

/-- What others may do to the photos while these locks are held. -/
structure ImageRely (L : List ImageSystemLock) (d d' : ImageRows) : Prop where
  issued : ∀ id ∈ d.2.issued, id ∈ d'.2.issued
  /-- an id stays with its unit, and is not given to another photo -/
  reborn : ∀ i ∈ d'.2.images, i.id ∈ d.2.issued → ∃ j ∈ d.2.images, j.id = i.id ∧ j.unitId = i.unitId
  unit : ∀ u, unitLock u ∈ L → ∀ i ∈ d'.2.images, i.unitId = u → i ∈ d.2.images
  fresh : ∀ id, imageLock id ∈ L → id ∈ d'.2.issued → id ∈ d.2.issued
  image : ∀ id, imageLock id ∈ L → d'.2.images.find? id = d.2.images.find? id

/-- An operation locks what it changes. -/
structure ImageFrame (L : List ImageSystemLock) (d d' : ImageRows) : Prop where
  issued : ∀ id ∈ d.2.issued, id ∈ d'.2.issued
  reborn : ∀ i ∈ d'.2.images, i.id ∈ d.2.issued → ∃ j ∈ d.2.images, j.id = i.id ∧ j.unitId = i.unitId
  unit : ∀ i ∈ d'.2.images, i ∉ d.2.images → unitLock i.unitId ∈ L
  fresh : ∀ id ∈ d'.2.issued, id ∉ d.2.issued → imageLock id ∈ L
  image : ∀ id, d'.2.images.find? id ≠ d.2.images.find? id → imageLock id ∈ L

theorem ImageRely.refl (L : List ImageSystemLock) (d : ImageRows) : ImageRely L d d where
  issued _ h := h
  reborn i hi _ := ⟨i, hi, rfl, rfl⟩
  unit _ _ _ hi _ := hi
  fresh _ _ h := h
  image _ _ := rfl

theorem ImageRely.trans {L : List ImageSystemLock} {d d' d'' : ImageRows} (h : ImageRely L d d')
    (h' : ImageRely L d' d'') : ImageRely L d d'' where
  issued id hid := h'.issued id (h.issued id hid)
  reborn i hi hid := by
    obtain ⟨j, hj, hji, hju⟩ := h'.reborn i hi (h.issued _ hid)
    obtain ⟨k, hk, hkj, hku⟩ := h.reborn j hj (hji ▸ hid)
    exact ⟨k, hk, hkj.trans hji, hku.trans hju⟩
  unit u hu i hi hiu := h.unit u hu i (h'.unit u hu i hi hiu) hiu
  fresh id hid h'' := h.fresh id hid (h'.fresh id hid h'')
  image id hid := (h'.image id hid).trans (h.image id hid)

section Guarantee

variable {publicURL : String → String}

/-- Both locks exclude themselves. -/
theorem not_held {L L' : List ImageSystemLock} (h : (imagePostgres publicURL).Compatible L L') {u : ℕ} :
    (unitLock u ∈ L → unitLock u ∉ L') ∧ (imageLock u ∈ L → imageLock u ∉ L') := by
  constructor
  · intro hl hl'
    have hfree := h _ hl _ hl'
    have hself : (imagePostgres publicURL).conflict (unitLock u) (unitLock u) = true := decide_eq_true rfl
    rw [hself] at hfree
    cases hfree
  · intro hl hl'
    have hfree := h _ hl _ hl'
    have hself : (imagePostgres publicURL).conflict (imageLock u) (imageLock u) = true :=
      decide_eq_true rfl
    rw [hself] at hfree
    cases hfree

variable (publicURL) in
/-- The photos under interference. -/
def photoGuarantee : RelyGuarantee (imagePostgres publicURL) ImageSystemReq where
  Op r L d d' := ImageEffect r d.2 d'.2 ∧ ImageFrame L d d'
  Rely := ImageRely
  refl := ImageRely.refl
  trans := ImageRely.trans
  guarantee {r L L' d d'} hop hcompat := by
    obtain ⟨-, hframe⟩ := hop
    constructor
    · exact hframe.issued
    · exact hframe.reborn
    · rintro u hu i hi rfl
      by_contra hnew
      exact (not_held hcompat).1 (hframe.unit i hi hnew) hu
    · intro id hid hissued
      by_contra hnew
      exact (not_held hcompat).2 (hframe.fresh id hissued hnew) hid
    · intro id hid
      by_contra hne
      exact (not_held hcompat).2 (hframe.image id hne) hid

/-! ### Statements -/

section Rules

open RelyGuarantee

variable {now : ℤ} {L : List ImageSystemLock} {W : List ImageSystemWrite} {d : ImageRows}

/-- A statement about photos. -/
theorem wp_image {s : ImageStmt} {what : String}
    {Q : Post ImageSystemLock ImageSystemWrite ImageRows s.Val}
    (h : ∀ d', ImageRely L d d' → ∀ o v ws,
      s.eval publicURL o now ((imagePostgres publicURL).view d' W) = .ok (v, ws) →
      Q v (L ++ s.locks o now ((imagePostgres publicURL).view d' W)) (W ++ ws.map Sum.inr) d') :
    (photoGuarantee publicURL).wp now (Images.query what s) Q L W d := by
  intro d' hR o v ws he
  obtain ⟨ws₀, he₀, rfl⟩ := Extra.eval_inr he
  exact h d' hR o v ws₀ he₀

/-- A `:one` query about photos. -/
theorem wp_one {α : Type} {q : ImageHandler (Option α)} {what : String}
    {Q : Post ImageSystemLock ImageSystemWrite ImageRows α}
    (h : (photoGuarantee publicURL).wp now q (fun row L W d => ∀ a, row = some a → Q a L W d) L W d) :
    (photoGuarantee publicURL).wp now (Images.one what q) Q L W d := by
  rw [Images.one, wp_bind]
  exact wp_mono (fun row L W d hrow => (wp_require row _).mpr hrow) q h

theorem wp_adminLockUnit {what : String} {id : ℕ} {Q : Post ImageSystemLock ImageSystemWrite ImageRows ℕ}
    (h : ∀ d' v, ImageRely L d d' → Q v (L ++ [unitLock id]) W d') :
    (photoGuarantee publicURL).wp now (Images.adminLockUnit what id) Q L W d := by
  refine wp_one (wp_image (fun d' hR o v ws he => ?_))
  cases he
  intro a _
  rw [List.map_nil, List.append_nil]
  exact h d' a hR

/-- The failure of a second cover. -/
def coverViolation (e : PgError) : Prop := e = .uniqueViolation "unit_images_one_cover"

theorem never_image {s : ImageStmt} {what : String}
    (h : ∀ d', ImageRely L d d' → ∀ o, s.eval publicURL o now ((imagePostgres publicURL).view d' W)
      ≠ .error (.uniqueViolation "unit_images_one_cover")) :
    (photoGuarantee publicURL).never coverViolation now (Images.query what s) L W d := by
  refine never_query _ (fun d' hR o e he hbad => ?_)
  rw [hbad] at he
  exact h d' hR o (Extra.answerOn_error he)

theorem never_one {α : Type} {q : ImageHandler (Option α)} {what : String}
    (h : (photoGuarantee publicURL).never coverViolation now q L W d) :
    (photoGuarantee publicURL).never coverViolation now (Images.one what q) L W d :=
  never_bind h (wp_mono (fun row _ _ _ _ => never_require row _) q (wp_true q))

theorem never_adminLockUnit {what : String} {id : ℕ} :
    (photoGuarantee publicURL).never coverViolation now (Images.adminLockUnit what id) L W d :=
  never_one (never_image (fun _ _ _ => nofun))

end Rules

/-! ### Uploads -/

/-- A photo with a new id, inserted under the lock of its unit. -/
theorem upload_op {req : ImageUpload} {unitId : ℕ} (hreq : req.unitId = some unitId)
    {L : List ImageSystemLock} {d d' : ImageRows} {i : UnitImageRow} (hunit : i.unitId = unitId)
    (hL : unitLock unitId ∈ L) (hLi : imageLock i.id ∈ L) (hnew : i.id ∉ d.2.issued)
    (hfirst : i.isCover → ¬ CoverTaken unitId i.id d) (hR : ImageRely L d d') :
    (photoGuarantee publicURL).Op (.inr (.upload req)) L d'
      ((imagePostgres publicURL).view d' [.inr (.insert i)]) := by
  show ImageEffect _ d'.2 (d'.2.insert i) ∧ ImageFrame L d' (d'.1, d'.2.insert i)
  have hnew' : i.id ∉ d'.2.issued := fun h => hnew (hR.fresh i.id hLi h)
  have hfree : d'.2.images.find? i.id = none := not_mem_of_not_issued hnew'
  have hfind : ∀ id, (d'.2.images.insert i).find? id = if i.id = id then some i
      else d'.2.images.find? id := Table.find?_insert hfree
  constructor
  · refine ⟨unitId, hreq, i, hunit, hfree, fun hc j hj hju hjc => ?_, hfind⟩
    have hold := hR.unit unitId hL j hj hju
    exact hfirst hc ⟨j, hold, fun hji => hnew (hji ▸ d.2.issued_mem j hold), hju, hjc⟩
  · constructor
    · exact fun id hid => List.mem_cons_of_mem _ hid
    · intro j hj hissued
      rcases Table.mem_of_mem_insert hj with hj | rfl
      · exact ⟨j, hj, rfl, rfl⟩
      · exact absurd hissued hnew'
    · intro j hj hnot
      rcases Table.mem_of_mem_insert hj with hj | rfl
      · exact absurd hj hnot
      · rw [hunit]
        exact hL
    · intro id hid hnot
      rcases List.mem_cons.mp hid with rfl | hid
      · exact hLi
      · exact absurd hid hnot
    · intro id hne
      by_cases hid : i.id = id
      · rw [← hid]
        exact hLi
      · exact absurd ((hfind id).trans (if_neg hid)) hne

section Uploads

open RelyGuarantee

variable {now : ℤ} {L : List ImageSystemLock} {d : ImageRows}

/-- The insert of an upload, under the lock of the unit. -/
theorem wp_createImage {req : ImageUpload} {unitId : ℕ} (hreq : req.unitId = some unitId)
    (url : String) (hL : unitLock unitId ∈ L) :
    (photoGuarantee publicURL).wp now (Images.adminCreateUnitImage ⟨unitId, url⟩)
      ((photoGuarantee publicURL).commits (.inr (.upload req))) L [] d := by
  rw [Images.adminCreateUnitImage, wp_bind]
  refine wp_image (fun d₁ _ _ next ws hnext => ?_)
  cases hnext
  refine wp_image (fun d₂ _ o row ws hrow => ?_)
  obtain ⟨rfl, hid, hunit, hnew, hfirst⟩ := adminCreateUnitImage_ok hrow
  rw [← hid] at hnew hfirst
  intro d₃ hR
  refine upload_op hreq hunit (List.mem_append_left _ (List.mem_append_left _ hL)) ?_ hnew hfirst hR
  rw [hid]
  exact List.mem_append_right _ List.mem_cons_self

/-- And it does not fail on the index. -/
theorem never_createImage {unitId : ℕ} (url : String) (hL : unitLock unitId ∈ L) :
    (photoGuarantee publicURL).never coverViolation now (Images.adminCreateUnitImage ⟨unitId, url⟩)
      L [] d := by
  rw [Images.adminCreateUnitImage]
  refine never_bind (never_image (fun _ _ _ => nofun)) ?_
  refine wp_image (fun d₁ _ _ next ws hnext => ?_)
  cases hnext
  refine never_image (fun d₂ hR o he => ?_)
  obtain ⟨hcover, i, hi, -, hunit, hic⟩ := adminCreateUnitImage_taken he
  -- only deletes have come between
  exact nextImage_isCover hcover i (hR.unit unitId (List.mem_append_left _ hL) i hi hunit) hunit hic

/-- An upload is its insert, under the lock of the unit. -/
theorem wp_upload {req : ImageUpload} {Q : Post ImageSystemLock ImageSystemWrite ImageRows UnitImageRow}
    (h : ∀ unitId url L d', req.unitId = some unitId → unitLock unitId ∈ L →
      (photoGuarantee publicURL).wp now (Images.adminCreateUnitImage ⟨unitId, url⟩) Q L [] d') :
    (photoGuarantee publicURL).wp now (adminUploadUnitImage req) Q [] [] d := by
  simp only [adminUploadUnitImage, wp_bind, wp_query, wp_require, wp_refuse]
  intro unitId hreq d₁ _ o₁ found ws₁ hfound
  cases hfound
  refine (wp_require _ _).mpr (fun _ _ => ?_)
  intro _ file _ _ mime _ ext _ d₂ _ o₂ uuid ws₂ huuid
  cases huuid
  intro d₃ _ o₃ url ws₃ hurl
  obtain ⟨ws₃, hput, rfl⟩ := Extra.eval_inr hurl
  obtain rfl := put_ok now d₃ hput
  exact wp_adminLockUnit (fun d₄ _ _ => h _ _ _ _ hreq (List.mem_append_right _ List.mem_cons_self))

theorem upload_verified (req : ImageUpload) :
    (photoGuarantee publicURL).wp now (adminUploadUnitImage req)
      ((photoGuarantee publicURL).commits (.inr (.upload req))) [] [] d :=
  wp_upload (fun _ url _ _ hreq hL => wp_createImage hreq url hL)

theorem upload_never (req : ImageUpload) :
    (photoGuarantee publicURL).never coverViolation now (adminUploadUnitImage req) [] [] d := by
  refine never_bind (never_require _ _) ((wp_require _ _).mpr (fun unitId hreq => ?_))
  refine never_bind (never_query _ (fun _ _ _ _ he => nomatch he)) (fun d₁ _ o₁ found ws₁ hfound => ?_)
  cases hfound
  refine never_bind (never_require _ _) ((wp_require _ _).mpr (fun _ _ => ?_))
  refine never_bind (never_refuse _ _) ((wp_refuse _ _).mpr (fun _ => ?_))
  refine never_bind (never_require _ _) ((wp_require _ _).mpr (fun file _ => ?_))
  refine never_bind (never_refuse _ _) ((wp_refuse _ _).mpr (fun _ => ?_))
  refine never_bind (never_require _ _) ((wp_require _ _).mpr (fun mime _ => ?_))
  refine never_bind (never_require _ _) ((wp_require _ _).mpr (fun ext _ => ?_))
  refine never_bind (never_query _ (fun _ _ _ _ he => nomatch he)) (fun d₂ _ o₂ uuid ws₂ huuid => ?_)
  cases huuid
  refine never_bind (never_query _ (fun _ _ _ e he hbad => ?_)) (fun d₃ _ o₃ url ws₃ hurl => ?_)
  · rw [hbad] at he
    cases put_error now d (Extra.answerOn_error he)
  · obtain ⟨ws₃, hput, rfl⟩ := Extra.eval_inr hurl
    obtain rfl := put_ok now d₃ hput
    exact never_bind never_adminLockUnit (wp_adminLockUnit (fun d₄ _ _ =>
      never_createImage _ (List.mem_append_right _ List.mem_cons_self)))

end Uploads

/-! ### Deletes -/

/-- A locked photo, deleted. -/
theorem delete_op {req : ImageDelete} {unitId : ℕ} (hreq : req.unitId = some unitId) {i : UnitImageRow}
    (himage : req.imageId = some i.id) (hunit : i.unitId = unitId) {L : List ImageSystemLock}
    (hL : imageLock i.id ∈ L) {d : ImageRows} (hi : d.2.images.find? i.id = some i) :
    (photoGuarantee publicURL).Op (.inr (.delete req)) L d
      ((imagePostgres publicURL).view d [.inr (.erase i.id)]) := by
  show ImageEffect _ d.2 (d.2.erase i.id) ∧ ImageFrame L d (d.1, d.2.erase i.id)
  have hfind : ∀ id, (d.2.images.erase i.id).find? id = if i.id = id then none
      else d.2.images.find? id := by
    intro id
    by_cases hid : i.id = id
    · rw [if_pos hid, ← hid, Table.find?_erase_self]
    · rw [if_neg hid, Table.find?_erase_ne hid]
  constructor
  · exact ⟨unitId, i.id, hreq, himage, i, hi, hunit, hfind⟩
  · constructor
    · exact fun id hid => hid
    · exact fun j hj _ => ⟨j, (Table.mem_erase.mp hj).1, rfl, rfl⟩
    · exact fun j hj hnot => absurd (Table.mem_erase.mp hj).1 hnot
    · exact fun id hid hnot => absurd hid hnot
    · intro id hne
      by_cases hid : i.id = id
      · rw [← hid]
        exact hL
      · exact absurd ((hfind id).trans (if_neg hid)) hne

section Deletes

open RelyGuarantee

variable {now : ℤ} {d : ImageRows}

theorem delete_verified (req : ImageDelete) :
    (photoGuarantee publicURL).wp now (adminDeleteUnitImage req)
      ((photoGuarantee publicURL).commits (.inr (.delete req))) [] [] d := by
  simp only [adminDeleteUnitImage, Images.adminDeleteUnitImage, wp_bind, wp_require]
  intro unitId hreq imageId himage
  refine wp_one (wp_image (fun d₁ _ o row ws hrow => ?_))
  intro url hurl d₂ hR
  have hdelete : Queries.adminDeleteUnitImage imageId unitId d₁ = (row, ws) := Except.ok.inj hrow
  rw [Queries.adminDeleteUnitImage] at hdelete
  cases hget : Queries.adminGetUnitImage imageId unitId d₁ with
  | none =>
    rw [hget] at hdelete
    rw [hurl] at hdelete
    cases hdelete
  | some i =>
    rw [hget] at hdelete
    obtain rfl := (Prod.mk.inj hdelete).2
    obtain ⟨hi, hunit⟩ := adminGetUnitImage_eq_some.mp hget
    obtain rfl : i.id = imageId := (Table.mem_of_find? hi).2
    have hL : imageLock i.id ∈ [] ++ (ImageStmt.adminDeleteUnitImage i.id unitId).locks o now d₁ := by
      show imageLock i.id ∈ ((Queries.adminGetUnitImage i.id unitId d₁).toList.flatMap _).map Sum.inr
      rw [hget]
      exact List.mem_cons_self
    exact delete_op hreq himage hunit hL ((hR.image i.id hL).trans hi)

theorem delete_never (req : ImageDelete) :
    (photoGuarantee publicURL).never coverViolation now (adminDeleteUnitImage req) [] [] d := by
  refine never_bind (never_require _ _) ((wp_require _ _).mpr (fun unitId _ => ?_))
  refine never_bind (never_require _ _) ((wp_require _ _).mpr (fun imageId _ => ?_))
  exact never_one (never_image (fun _ _ _ => nofun))

end Deletes

/-! ### Patches -/

/-- The photos that a patch takes the cover from, all locked, and no other cover left. -/
structure Cleared (unitId imageId : ℕ) (cover : Bool) (L : List ImageSystemLock) (ids : List ℕ)
    (d : ImageRows) : Prop where
  locked : ∀ id ∈ ids, imageLock id ∈ L
  found : ∀ id ∈ ids, ∃ i ∈ d.2.images, i.unitId = unitId ∧ i.id ≠ imageId ∧ i.id = id
  all : cover → ∀ i ∈ d.2.images, i.unitId = unitId → i.isCover → i.id ≠ imageId → i.id ∈ ids
  none : ¬ cover → ids = []

/-- Commits of others leave it so. -/
theorem Cleared.rely {unitId imageId : ℕ} {cover : Bool} {L : List ImageSystemLock} {ids : List ℕ}
    {d d' : ImageRows} (h : Cleared unitId imageId cover L ids d) (hL : unitLock unitId ∈ L)
    (hR : ImageRely L d d') : Cleared unitId imageId cover L ids d' where
  locked := h.locked
  found id hid := by
    obtain ⟨i, hi, hunit, hne, rfl⟩ := h.found id hid
    have hfind := hR.image i.id (h.locked _ hid)
    exact ⟨i, mem_iff_find?.mpr (hfind.trans (mem_iff_find?.mp hi)), hunit, hne, rfl⟩
  all hc i hi hunit := h.all hc i (hR.unit unitId hL i hi hunit) hunit
  none := h.none

theorem Cleared.mono {unitId imageId : ℕ} {cover : Bool} {L L' : List ImageSystemLock} {ids : List ℕ}
    {d : ImageRows} (h : Cleared unitId imageId cover L ids d) :
    Cleared unitId imageId cover (L ++ L') ids d where
  locked id hid := List.mem_append_left _ (h.locked id hid)
  found := h.found
  all := h.all
  none := h.none

/-- Photos without their covers, as the update finds them and as the effect says. -/
theorem Cleared.uncover_eq {unitId imageId : ℕ} {cover : Bool} {L : List ImageSystemLock} {ids : List ℕ}
    {d : ImageRows} (h : Cleared unitId imageId cover L ids d) {j : UnitImageRow}
    (hj : j ∈ d.2.images) (hne : j.id ≠ imageId) :
    uncover ids j = if cover then withoutCover unitId j else j := by
  by_cases hc : cover = true
  · rw [if_pos hc]
    by_cases hid : j.id ∈ ids
    · obtain ⟨i, hi, hunit, -, hij⟩ := h.found _ hid
      obtain rfl := Table.eq_of_key_eq hi hj hij
      rw [uncover, if_pos hid, withoutCover, if_pos hunit]
    · rw [uncover, if_neg hid]
      by_cases hunit : j.unitId = unitId
      · have hno : j.isCover = false :=
          Bool.eq_false_iff.mpr (fun hjc => hid (h.all hc j hj hunit hjc hne))
        rw [withoutCover, if_pos hunit, ← hno]
      · rw [withoutCover, if_neg hunit]
  · rw [if_neg hc, h.none hc, uncover, if_neg List.not_mem_nil]

/-- What pending writes do to the photos: some lose their cover. -/
structure Uncovers (publicURL : String → String) (ids : List ℕ) (W : List ImageSystemWrite) : Prop where
  find : ∀ d id, ((imagePostgres publicURL).view d W).2.images.find? id
    = (d.2.images.find? id).map (uncover ids)
  issued : ∀ d, ((imagePostgres publicURL).view d W).2.issued = d.2.issued

theorem uncovers_nil : Uncovers publicURL [] [] where
  find d id := by
    have hid : uncover [] = fun i => i := by
      funext i
      exact if_neg List.not_mem_nil
    rw [hid, Option.map_id']
    rfl
  issued _ := rfl

theorem uncovers_clearCover (ids : List ℕ) : Uncovers publicURL ids [.inr (.clearCover ids)] where
  find d id := Table.find?_mapRows d.2.images (uncover ids) (id_uncover ids) id
  issued _ := rfl

theorem unitId_uncover (ids : List ℕ) (j : UnitImageRow) : (uncover ids j).unitId = j.unitId := by
  rw [uncover]
  split_ifs <;> rfl

/-- The photos once a locked one is changed, after the covers it replaces are cleared. -/
structure PatchedPhotos (ids : List ℕ) (i i' : UnitImageRow) (d d' : ImageTables) : Prop where
  issued : d'.issued = d.issued
  find : ∀ id, d'.images.find? id = if i.id = id then some i'
    else (d.images.find? id).map (uncover ids)

theorem Uncovers.patchedPhotos {ids : List ℕ} {W : List ImageSystemWrite} (hW : Uncovers publicURL ids W)
    {i i' : UnitImageRow} {d : ImageRows} (hid' : i'.id = i.id) (hi : d.2.images.find? i.id = some i) :
    PatchedPhotos ids i i' d.2 (((imagePostgres publicURL).view d W).2.set i') := by
  refine ⟨hW.issued d, fun id => ?_⟩
  by_cases hid : i.id = id
  · rw [if_pos hid, ← hid, ← hid']
    refine Table.find?_set_self ?_
    rw [hid', hW.find, hi]
    rfl
  · rw [if_neg hid]
    exact (Table.find?_set_ne (by rwa [hid'])).trans (hW.find d id)

/-- Which photos there are then. -/
theorem PatchedPhotos.mem {ids : List ℕ} {i i' : UnitImageRow} {d d' : ImageTables} (h : PatchedPhotos ids i i' d d')
    {x : UnitImageRow} (hx : x ∈ d'.images) :
    x = i' ∨ ∃ j ∈ d.images, uncover ids j = x ∧ j.id ≠ i.id := by
  rw [mem_iff_find?, h.find] at hx
  by_cases hid : i.id = x.id
  · rw [if_pos hid] at hx
    exact Or.inl (Option.some.inj hx).symm
  · rw [if_neg hid] at hx
    obtain ⟨j, hj, rfl⟩ := Option.map_eq_some_iff.mp hx
    rw [id_uncover] at hj hid
    exact Or.inr ⟨j, mem_iff_find?.mpr hj, rfl, Ne.symm hid⟩

/-- What loses its cover is locked. -/
theorem Cleared.locked_of_ne {unitId imageId : ℕ} {cover : Bool} {L : List ImageSystemLock}
    {ids : List ℕ} {d : ImageRows} (h : Cleared unitId imageId cover L ids d) (hL : unitLock unitId ∈ L)
    {j : UnitImageRow} (hj : j ∈ d.2.images) (hne : uncover ids j ≠ j) :
    imageLock j.id ∈ L ∧ unitLock j.unitId ∈ L := by
  by_cases hid : j.id ∈ ids
  · obtain ⟨k, hk, hku, -, hkj⟩ := h.found _ hid
    obtain rfl := Table.eq_of_key_eq hk hj hkj
    rw [hku]
    exact ⟨h.locked _ hid, hL⟩
  · exact absurd (if_neg hid) hne

/-- A patch locks what it changes. -/
theorem PatchedPhotos.frame {unitId : ℕ} {cover : Bool} {L : List ImageSystemLock} {ids : List ℕ}
    {i i' : UnitImageRow} {d d' : ImageRows} (h : PatchedPhotos ids i i' d.2 d'.2) (hid' : i'.id = i.id)
    (hunit' : i'.unitId = i.unitId) (hunit : i.unitId = unitId) (hL : unitLock unitId ∈ L)
    (hLi : imageLock i.id ∈ L) (hi : d.2.images.find? i.id = some i)
    (hcleared : Cleared unitId i.id cover L ids d) : ImageFrame L d d' := by
  constructor
  · intro id hid
    rw [h.issued]
    exact hid
  · intro x hx _
    rcases h.mem hx with rfl | ⟨j, hj, rfl, -⟩
    · exact ⟨i, mem_iff_find?.mpr hi, hid'.symm, hunit'.symm⟩
    · exact ⟨j, hj, (id_uncover ids j).symm, (unitId_uncover ids j).symm⟩
  · intro x hx hnot
    rcases h.mem hx with rfl | ⟨j, hj, rfl, -⟩
    · rw [hunit', hunit]
      exact hL
    · rw [unitId_uncover]
      refine (hcleared.locked_of_ne hL hj (fun heq => hnot ?_)).2
      rw [heq]
      exact hj
  · intro id hid hnot
    rw [h.issued] at hid
    exact absurd hid hnot
  · intro id hne
    by_cases hid : i.id = id
    · rw [← hid]
      exact hLi
    · cases hj : d.2.images.find? id with
      | none =>
        refine absurd ((h.find id).trans ?_) hne
        rw [if_neg hid, hj]
        rfl
      | some j =>
        obtain ⟨hjm, rfl⟩ := Table.mem_of_find? hj
        refine (hcleared.locked_of_ne hL hjm (fun heq => hne ((h.find j.id).trans ?_))).1
        rw [if_neg hid, hj, Option.map_some, heq]

/-- **A patch** has its effect, within its locks. -/
theorem patch_op {req : ImagePatch} {unitId : ℕ} (hreq : req.unitId = some unitId) {i i' : UnitImageRow}
    (himage : req.imageId = some i.id) (hunit : i.unitId = unitId) (happly : req.body.apply i = .ok i')
    {L : List ImageSystemLock} {d : ImageRows} {ids : List ℕ} {W : List ImageSystemWrite}
    (hL : unitLock unitId ∈ L) (hLi : imageLock i.id ∈ L) (hi : d.2.images.find? i.id = some i)
    (hcleared : Cleared unitId i.id i'.isCover L ids d) (hW : Uncovers publicURL ids W) :
    (photoGuarantee publicURL).Op (.inr (.patch req)) L d
      ((imagePostgres publicURL).view d (W ++ [.inr (.set i')])) := by
  obtain ⟨hid', hunit'⟩ : i'.id = i.id ∧ i'.unitId = i.unitId := by
    rw [ImageInput.apply_ok happly]
    exact ⟨rfl, rfl⟩
  have hpatched := hW.patchedPhotos hid' hi
  rw [Database.view_append]
  generalize (imagePostgres publicURL).view d W = d' at hpatched
  show ImageEffect _ d.2 (d'.2.set i') ∧ ImageFrame L d (d'.1, d'.2.set i')
  refine ⟨⟨unitId, i.id, hreq, himage, i, i', hi, hunit, happly, fun id => ?_⟩, ?_⟩
  · refine (hpatched.find id).trans ?_
    by_cases hid : i.id = id
    · rw [if_pos hid, if_pos hid]
    · rw [if_neg hid, if_neg hid]
      refine Option.map_congr (fun j hj => ?_)
      obtain ⟨hjm, rfl⟩ := Table.mem_of_find? hj
      exact hcleared.uncover_eq hjm (Ne.symm hid)
  · exact hpatched.frame hid' hunit' hunit hL hLi hi hcleared

/-- The photo is as the patch read it, or gone, and its id is nobody else's. -/
structure StillRead (i : UnitImageRow) (d : ImageRows) : Prop where
  issued : i.id ∈ d.2.issued
  same : ∀ j ∈ d.2.images, j.id = i.id → j = i

/-- Under the lock of its unit, others can only delete it. -/
theorem StillRead.rely {i : UnitImageRow} {d d' : ImageRows} {L : List ImageSystemLock}
    (h : StillRead i d) (hL : unitLock i.unitId ∈ L) (hR : ImageRely L d d') : StillRead i d' where
  issued := hR.issued _ h.issued
  same j hj hji := by
    obtain ⟨k, hk, hkj, hku⟩ := hR.reborn j hj (hji ▸ h.issued)
    obtain rfl := h.same k hk (hkj.trans hji)
    exact h.same j (hR.unit k.unitId hL j hj hku.symm) hji

theorem stillRead_of_find? {i : UnitImageRow} {d : ImageRows} (h : d.2.images.find? i.id = some i) :
    StillRead i d where
  issued := d.2.issued_mem i (mem_iff_find?.mpr h)
  same _ hj hji := Table.eq_of_key_eq hj (mem_iff_find?.mpr h) hji

section Patches

open RelyGuarantee

variable {now : ℤ} {L : List ImageSystemLock} {W : List ImageSystemWrite} {d : ImageRows}
  {i : UnitImageRow} {ids : List ℕ}

/-- The photo that an update finds is the one that was read. -/
theorem StillRead.updated {cover : Bool} (hread : StillRead i d)
    (hcleared : Cleared i.unitId i.id cover L ids d) (hW : Uncovers publicURL ids W) {j : UnitImageRow}
    (hj : ((imagePostgres publicURL).view d W).2.images.find? i.id = some j) :
    j = i ∧ d.2.images.find? i.id = some i := by
  rw [hW.find] at hj
  obtain ⟨j₀, hj₀, rfl⟩ := Option.map_eq_some_iff.mp hj
  obtain ⟨hmem, hid⟩ := Table.mem_of_find? hj₀
  obtain rfl := hread.same j₀ hmem hid
  refine ⟨if_neg (fun hid => ?_), hj₀⟩
  obtain ⟨k, -, -, hne, hk⟩ := hcleared.found _ hid
  exact hne hk

theorem wp_updateImage {req : ImagePatch} (hreq : req.unitId = some i.unitId)
    (himage : req.imageId = some i.id) {i' : UnitImageRow} (happly : req.body.apply i = .ok i')
    {cover : Bool} (hc : i'.isCover = cover) (hL : unitLock i.unitId ∈ L) (hread : StillRead i d)
    (hcleared : Cleared i.unitId i.id cover L ids d) (hW : Uncovers publicURL ids W) :
    (photoGuarantee publicURL).wp now
      (Images.adminUpdateUnitImage ⟨i.id, i'.altAr, i'.altEn, i'.sort, cover⟩)
      ((photoGuarantee publicURL).commits (.inr (.patch req))) L W d := by
  obtain rfl := hc
  refine wp_one (wp_image (fun d₁ hR o row ws hrow => ?_))
  rintro r rfl d₂ hR'
  obtain ⟨j, hj, rfl, hr⟩ := adminUpdateUnitImage_ok hrow
  have hread₁ := hread.rely hL hR
  have hcleared₁ := hcleared.rely hL hR
  obtain ⟨rfl, hi⟩ := hread₁.updated hcleared₁ hW hj
  obtain rfl : r = i' := by
    rw [hr, ImageInput.apply_ok happly]
    rfl
  have hLi : imageLock j.id ∈ L ++ (ImageStmt.adminUpdateUnitImage
      ⟨j.id, r.altAr, r.altEn, r.sort, r.isCover⟩).locks o now ((imagePostgres publicURL).view d₁ W) :=
    List.mem_append_right _ List.mem_cons_self
  exact patch_op hreq himage rfl happly (List.mem_append_left _ hL) hLi
    ((hR'.image j.id hLi).trans hi) (hcleared₁.mono.rely (List.mem_append_left _ hL) hR') hW

/-- The update does not fail on the index: whatever was a cover is none by then, or deleted. -/
theorem never_updateImage {altAr altEn : Option String} {sort : Int16} {cover : Bool}
    (hL : unitLock i.unitId ∈ L) (hread : StillRead i d)
    (hcleared : Cleared i.unitId i.id cover L ids d) (hW : Uncovers publicURL ids W) :
    (photoGuarantee publicURL).never coverViolation now
      (Images.adminUpdateUnitImage ⟨i.id, altAr, altEn, sort, cover⟩) L W d := by
  refine never_one (never_image (fun d₁ hR o he => ?_))
  obtain ⟨j, hj, hcover, k, hk, hne, hunit, hkc⟩ := adminUpdateUnitImage_taken he
  have hcleared₁ := hcleared.rely hL hR
  obtain ⟨rfl, -⟩ := (hread.rely hL hR).updated hcleared₁ hW hj
  rw [← Table.mem_def, mem_iff_find?, hW.find] at hk
  obtain ⟨k₀, hk₀, rfl⟩ := Option.map_eq_some_iff.mp hk
  rw [id_uncover] at hk₀ hne
  have hmem : k₀ ∈ d₁.2.images := mem_iff_find?.mpr hk₀
  rw [hcleared₁.uncover_eq hmem hne, if_pos hcover] at hunit hkc
  obtain ⟨hother, heq⟩ := withoutCover_isCover hkc
  rw [heq] at hunit
  exact hother hunit

theorem wp_getImage {id unitId : ℕ} {Q : Post ImageSystemLock ImageSystemWrite ImageRows UnitImageRow}
    (h : ∀ d' i, ImageRely L d d' → d'.2.images.find? id = some i → i.unitId = unitId → Q i L [] d') :
    (photoGuarantee publicURL).wp now (Images.adminGetUnitImage id unitId) Q L [] d := by
  refine wp_one (wp_image (fun d' hR o row ws hrow => ?_))
  intro i hi
  have hget : Queries.adminGetUnitImage id unitId d' = row ∧ [] = ws := Prod.mk.inj (Except.ok.inj hrow)
  obtain ⟨hget, rfl⟩ := hget
  obtain ⟨hfind, hunit⟩ := adminGetUnitImage_eq_some.mp (hget.trans hi)
  show Q i (L ++ []) [] d'
  rw [List.append_nil]
  exact h d' i hR hfind hunit

/-- **Clearing the cover** leaves none of the unit's, but for the photo itself. -/
theorem wp_clearCover {Q : Post ImageSystemLock ImageSystemWrite ImageRows PUnit}
    (hL : unitLock i.unitId ∈ L) (hread : StillRead i d)
    (h : ∀ L' d' ids, unitLock i.unitId ∈ L' → StillRead i d' → Cleared i.unitId i.id true L' ids d' →
      Q ⟨⟩ L' [.inr (.clearCover ids)] d') :
    (photoGuarantee publicURL).wp now (Images.adminClearUnitCover i.unitId i.id) Q L [] d := by
  rw [Images.adminClearUnitCover, wp_bind]
  refine wp_image (fun d₁ hR₁ _ ids ws hids => ?_)
  obtain ⟨rfl, rfl⟩ : Queries.coversBut i.unitId i.id d₁ = ids ∧ [] = ws :=
    Prod.mk.inj (Except.ok.inj hids)
  refine wp_image (fun d₂ hR₂ o u ws hclear => ?_)
  cases hclear
  have hL₁ : unitLock i.unitId ∈ L ++ (ImageStmt.coversBut i.unitId i.id).locks o now d₁ :=
    List.mem_append_left _ hL
  refine h _ d₂ _ (List.mem_append_left _ hL₁) ((hread.rely hL hR₁).rely hL₁ hR₂) ?_
  constructor
  · intro id hid
    refine List.mem_append_right _ (List.mem_map_of_mem ?_)
    exact List.mem_append_left _ (List.mem_map_of_mem (List.mem_of_mem_filter hid))
  · intro id hid
    obtain ⟨j, hj, hunit, -, hne, hji⟩ := mem_coversBut.mp (of_decide_eq_true (List.mem_filter.mp hid).2)
    exact ⟨j, hj, hunit, hne, hji⟩
  · intro _ j hj hunit hjc hne
    have hold := hR₂.unit i.unitId hL₁ j hj hunit
    refine List.mem_filter.mpr ⟨mem_coversBut.mpr ⟨j, hold, hunit, hjc, hne, rfl⟩, ?_⟩
    exact decide_eq_true (mem_coversBut.mpr ⟨j, hj, hunit, hjc, hne, rfl⟩)
  · exact fun hno => absurd rfl hno

theorem never_clearCover {unitId keepId : ℕ} :
    (photoGuarantee publicURL).never coverViolation now (Images.adminClearUnitCover unitId keepId)
      L W d := by
  refine never_bind (never_image (fun _ _ _ => nofun)) (wp_mono (fun ids _ _ _ _ => ?_) _ (wp_true _))
  exact never_image (fun _ _ _ => nofun)

/-- A patch that clears nothing. -/
theorem cleared_nil : Cleared i.unitId i.id false L [] d where
  locked _ h := absurd h List.not_mem_nil
  found _ h := absurd h List.not_mem_nil
  all h := absurd h Bool.false_ne_true
  none _ := rfl

theorem patch_verified (req : ImagePatch) :
    (photoGuarantee publicURL).wp now (adminPatchUnitImage req)
      ((photoGuarantee publicURL).commits (.inr (.patch req))) [] [] d := by
  simp only [adminPatchUnitImage, wp_bind, wp_require]
  intro unitId hreq imageId himage
  refine wp_adminLockUnit (fun d₁ _ _ => wp_getImage (fun d₂ i _ hi hunit => ?_))
  obtain rfl := hunit
  obtain rfl : i.id = imageId := (Table.mem_of_find? hi).2
  refine (wp_check _ _).mpr (fun i' happly => ?_)
  have hL : unitLock i.unitId ∈ [] ++ [unitLock i.unitId] := List.mem_append_right _ List.mem_cons_self
  have hread := stillRead_of_find? hi
  cases hc : i'.isCover with
  | true =>
    rw [if_pos rfl, wp_bind]
    refine wp_clearCover hL hread (fun L' d₃ ids hL' hread' hcleared => ?_)
    exact wp_updateImage hreq himage happly hc hL' hread' hcleared (uncovers_clearCover ids)
  | false => exact wp_updateImage hreq himage happly hc hL hread cleared_nil uncovers_nil

theorem patch_never (req : ImagePatch) :
    (photoGuarantee publicURL).never coverViolation now (adminPatchUnitImage req) [] [] d := by
  refine never_bind (never_require _ _) ((wp_require _ _).mpr (fun unitId _ => ?_))
  refine never_bind (never_require _ _) ((wp_require _ _).mpr (fun imageId _ => ?_))
  refine never_bind never_adminLockUnit (wp_adminLockUnit (fun d₁ _ _ => ?_))
  refine never_bind (never_one (never_image (fun _ _ _ => nofun))) (wp_getImage (fun d₂ i _ hi hunit => ?_))
  obtain rfl := hunit
  obtain rfl : i.id = imageId := (Table.mem_of_find? hi).2
  refine never_bind (never_check _ _) ((wp_check _ _).mpr (fun i' happly => ?_))
  have hL : unitLock i.unitId ∈ [] ++ [unitLock i.unitId] := List.mem_append_right _ List.mem_cons_self
  have hread := stillRead_of_find? hi
  cases hc : i'.isCover with
  | true =>
    refine never_bind never_clearCover (wp_clearCover hL hread (fun L' d₃ ids hL' hread' hcleared => ?_))
    exact never_updateImage hL' hread' hcleared (uncovers_clearCover ids)
  | false => exact never_updateImage hL hread cleared_nil uncovers_nil

end Patches

/-! ### The system -/

section System

open RelyGuarantee

/-- Requests that know nothing of photos leave them alone. -/
theorem lifted_wp {α β : Type} {r : AllReq} (f : α → β) {now : ℤ} (p : Prog AllStmt AllVal PgError ApiError α)
    {L : List ImageSystemLock} (W : List (Write ⊕ CatalogueWrite)) {d : ImageRows} :
    (photoGuarantee publicURL).wp now (p.lift f) ((photoGuarantee publicURL).commits (.inl r)) L
      (W.map Sum.inl) d := by
  induction p generalizing L W d with
  | pure a =>
    intro d' _
    rw [Extra.view_inl]
    exact ⟨rfl, fun _ h => h, fun i hi _ => ⟨i, hi, rfl, rfl⟩, fun _ hi hnot => absurd hi hnot,
      fun _ hid hnot => absurd hid hnot, fun _ hne => absurd rfl hne⟩
  | throw e => trivial
  | exec s k ih =>
    intro d' _ o v ws he
    obtain ⟨ws₀, -, rfl⟩ := Extra.eval_inl he
    rw [← List.map_append]
    exact ih _ _

variable (srv : Server) (texts : Texts)

theorem imageSystem_verified : (photoGuarantee publicURL).Verified (imageSystem srv texts) := by
  intro r now d
  cases r with
  | inl r => exact lifted_wp Sum.inl (fullProgram srv texts r) []
  | inr r =>
    refine (wp_map _ _).mpr ?_
    cases r with
    | upload req => exact (wp_map _ _).mpr (upload_verified req)
    | patch req => exact (wp_map _ _).mpr (patch_verified req)
    | delete req => exact (wp_map _ _).mpr (delete_verified req)

theorem imageSystem_never (r : ImageSystemReq) (hr : r.isRight) (now : ℤ) (d : ImageRows) :
    (photoGuarantee publicURL).never coverViolation now (imageSystem srv texts r) [] [] d := by
  cases r with
  | inl r => cases hr
  | inr r =>
    refine never_map _ ?_
    cases r with
    | upload req => exact never_map _ (upload_never req)
    | patch req => exact never_map _ (patch_never req)
    | delete req => exact never_map _ (delete_never req)

end System

end Guarantee

/-- A step leaves the rows alone, or ends a transaction whose handler answers with a value. -/
theorem step_commits {DB Write Lock Err Oracle Stmt Req ε α : Type} {Val : Stmt → Type}
    {D : Database DB Write Lock Err Oracle Stmt Val} {program : Req → Prog Stmt Val Err ε α}
    {s s' : State DB Write Lock Err Stmt Val Req ε α} {lab : Option Req}
    (h : Step D program s lab s') : s'.db = s.db ∨ ∃ i t a, s.txs i = some t ∧ t.prog = .pure a ∧
      t.failed = false ∧ lab = some t.req ∧ s'.txs = Function.update s.txs i none := by
  cases h with
  | start i r now free => exact Or.inl rfl
  | exec i o live next fine free => exact Or.inl rfl
  | refused i live next bad => exact Or.inl rfl
  | commit i live done fine => exact Or.inr ⟨i, _, _, live, done, fine, rfl, rfl⟩
  | abort i live => exact Or.inl rfl

/-- What a successful patch leaves: a photo that was to be the cover is the only one, and no other
photo is changed but for the cover it replaces. -/
def PatchKept (body : ImageInput) (unitId imageId : ℕ) (t t' : ImageTables) : Prop :=
  (body.isCover = .value true → ∃ i ∈ t'.images, i.id = imageId ∧ i.unitId = unitId ∧ i.isCover ∧
    ∀ j ∈ t'.images, j.unitId = unitId → j.isCover → j = i) ∧
  ∀ id, id ≠ imageId → t'.images.find? id = t.images.find? id ∨
    ∃ j, t.images.find? id = some j ∧ j.unitId = unitId ∧ j.isCover ∧
      t'.images.find? id = some { j with isCover := false }

/-- **One cover for each unit**, in every state of every run; no request about photos fails on the
index; a patch that succeeds moves the cover and changes nothing else; and whatever does not succeed
changes nothing. -/
theorem one_cover (publicURL : String → String) (srv : Server) (texts : Texts) {d₀ : ImageRows}
    (h₀ : OneCover d₀.2.images) {s : ImageSys} (hs : ImageReaches publicURL srv texts d₀ s) :
    OneCover s.db.2.images ∧
    (∀ i t r st k o, s.txs i = some t → t.req = .inr r → t.failed = false → t.prog = .exec st k →
      (imagePostgres publicURL).eval st o t.now ((imagePostgres publicURL).view s.db t.writes)
        ≠ .error (.uniqueViolation "unit_images_one_cover")) ∧
    (∀ req s', Step (imagePostgres publicURL) (imageSystem srv texts) s (some (.inr (.patch req))) s' →
      ∃ unitId imageId, req.unitId = some unitId ∧ req.imageId = some imageId ∧
        PatchKept req.body unitId imageId s.db.2 s'.db.2) ∧
    ∀ lab s', Step (imagePostgres publicURL) (imageSystem srv texts) s lab s' → s'.db = s.db ∨
      ∃ i t a, s.txs i = some t ∧ t.prog = .pure a ∧ t.failed = false ∧ lab = some t.req ∧
        s'.txs = Function.update s.txs i none := by
  have hverified : (photoGuarantee publicURL).Verified (imageSystem srv texts) :=
    imageSystem_verified srv texts
  have hsound : (photoGuarantee publicURL).Sound s :=
    (RelyGuarantee.sound_quiet d₀).run hverified hs
  refine ⟨?_, ?_, ?_, fun _ _ h => step_commits h⟩
  · have hserial := (RelyGuarantee.sound_quiet (G := photoGuarantee publicURL) d₀).serial hverified hs
    exact hserial.invariant h₀ (fun hdb _ hop => hop.1.oneCover hdb)
  · intro i t r st k o live hreq fine next he
    have hnever : (photoGuarantee publicURL).Faultless coverViolation (fun r => r.isRight) s :=
      RelyGuarantee.Sound.never_run hverified (imageSystem_never srv texts) hs
    exact hnever.eval_ne live (by rw [hreq]; rfl) fine next o he rfl
  · intro req s' hstep
    obtain ⟨L, ⟨unitId, imageId, hunit, himage, hpatched⟩, -⟩ := hsound.commit_op hstep
    exact ⟨unitId, imageId, hunit, himage, hpatched.onlyCover, fun id hne => hpatched.others hne⟩

/-! ### A cover deleted under a patch -/

/-- The coast without photos. -/
def coastPhotos : ImageRows :=
  (coast, ⟨Table.empty, [], fun i hi => absurd hi (Table.not_mem_empty i)⟩)

/-- A photo of the sea chalet. -/
def photoUpload : ImageRequest := .upload ⟨some 1, 2000, some ⟨1500, some "image/jpeg"⟩⟩

def makeCover : ImageRequest := .patch ⟨some 1, some 2, { isCover := .value true }⟩

/-- Two photos are uploaded; while the second is made the cover, the first is deleted. -/
def coverMoves : List (Move ImageSystemReq Oracle) :=
  let starts (i : ℕ) (r : ImageRequest) := Move.start i (.inr r) (noonOf newYear)
  let runs (i : ℕ) : Move ImageSystemReq Oracle := .exec i (oracleAt i (noonOf newYear))
  [starts 1 photoUpload, runs 1, runs 1, runs 1, runs 1, runs 1, runs 1, .commit 1,
    starts 2 photoUpload, runs 2, runs 2, runs 2, runs 2, runs 2, runs 2, .commit 2,
    starts 3 makeCover, runs 3, runs 3, runs 3,
    starts 4 (.delete ⟨some 1, some 1⟩), runs 4, .commit 4,
    runs 3, runs 3, .commit 3]

theorem one_cover_moved : ∃ s : ImageSys,
    ImageReaches (fun key => "/" ++ key) winterServer plainTexts coastPhotos s ∧
    OneCover s.db.2.images ∧ s.db.2.images.rows.map (fun i => (i.id, i.isCover)) = [(2, true)] := by
  have hplayed : (plays (imagePostgres (fun key => "/" ++ key)) (imageSystem winterServer plainTexts)
      (fun _ _ => true) 5 coverMoves (Logged.quiet coastPhotos) []).any (fun p =>
        decide (p.2.state.db.2.images.rows.map (fun i => (i.id, i.isCover)) = [(2, true)])) = true := by
    decide +kernel
  obtain ⟨rs, l, hrun, -, htest⟩ := LRun.of_plays always (fun _ _ _ _ _ => trivial) hplayed
  have hone := one_cover (fun key => "/" ++ key) winterServer plainTexts
    (fun i hi => absurd hi (Table.not_mem_empty i)) hrun.run
  exact ⟨l.state, hrun.run, hone.1, of_decide_eq_true htest⟩

end Sahel

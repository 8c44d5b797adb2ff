import Sahel.Safety.Covers
import Sahel.Store.PublicCatalogue

/-!
# A photo is added at the end

An upload's photo is meant to stand after every other of its unit: its `sort` is one more than the
largest, in a column of 16 bits that a patch may set to any value from 0 on.

* `Appended` says that a photo has been added so, and what it means for the list that guests see;
* `upload_appends`: an upload that commits has added one, whatever was deleted in the meantime;
* `alone_upload`: what an upload does when nobody else is connected;
* **`photos_appended`**: a valid upload adds its photo exactly when no photo of the unit has the
  largest `sort` of all.
-/

set_option autoImplicit false

namespace Sahel

open ReadCommitted KeyedTable Paging

/-! ### The end of the list -/

/-- The photos of a unit among these. -/
def photosOf (unitId : ℕ) (t : ImageTables) : List UnitImageRow :=
  t.images.rows.filter (fun i => decide (i.unitId = unitId))

/-- One photo is added to the unit and every other of it has a smaller `sort`; so if it is not the
cover, it is the last one listed. -/
structure Appended (unitId : ℕ) (t t' : ImageTables) (i : UnitImageRow) : Prop where
  unit : i.unitId = unitId
  fresh : t.images.find? i.id = none
  rows : ∀ id, t'.images.find? id = if i.id = id then some i else t.images.find? id
  greater : ∀ j ∈ t.images, j.unitId = unitId → j.sort < i.sort
  listed : i.isCover = false → ∀ rows, Queries.imageOrder.Arranges rows (photosOf unitId t') →
    rows.getLast? = some i

theorem mem_photosOf {unitId : ℕ} {t : ImageTables} {i : UnitImageRow} :
    i ∈ photosOf unitId t ↔ i ∈ t.images ∧ i.unitId = unitId := by
  rw [photosOf, List.mem_filter, decide_eq_true_eq]
  rfl

/-- A photo that is no cover comes after the cover, and after one with a smaller `sort`. -/
theorem not_imageOrder_le {i j : UnitImageRow} (hi : i.isCover = false) (h : j.sort < i.sort) :
    ¬ Queries.imageOrder.le i j := by
  have hsort : j.sort.toInt < i.sort.toInt := Int16.lt_iff_toInt_lt.mp h
  cases hj : j.isCover with
  | true => simp [Queries.imageOrder, Ranking.andThen, Ranking.comap, Ranking.ascending, hi, hj]
  | false =>
    simp [Queries.imageOrder, Ranking.andThen, Ranking.comap, Ranking.ascending, hi, hj]
    omega

/-- A row inserted with a greater `sort` is appended. -/
theorem appended_insert {unitId : ℕ} {t : ImageTables} {i : UnitImageRow} (hi : i.unitId = unitId)
    (hfree : t.images.find? i.id = none)
    (hgreater : ∀ j ∈ t.images, j.unitId = unitId → j.sort < i.sort) :
    Appended unitId t (t.insert i) i where
  unit := hi
  fresh := hfree
  rows := Table.find?_insert hfree
  greater := hgreater
  listed hcover rows hrows := by
    refine hrows.getLast? (mem_photosOf.mpr ⟨(Table.mem_insert hfree).mpr (Or.inr rfl), hi⟩) ?_
    intro j hj hne
    obtain ⟨hj, hunit⟩ := mem_photosOf.mp hj
    rcases Table.mem_of_mem_insert hj with hj | rfl
    · exact not_imageOrder_le hcover (hgreater j hj hunit)
    · exact absurd rfl hne

/-! ### The next `sort` -/

theorem mem_imagesOf {unitId : ℕ} {d : ImageRows} {i : UnitImageRow} :
    i ∈ Queries.imagesOf unitId d ↔ i ∈ d.2.images ∧ i.unitId = unitId := by
  rw [Queries.imagesOf, List.mem_filter, decide_eq_true_eq]
  rfl

/-- The next `sort` is 0 for the first photo, and one more than the largest after it. -/
theorem nextImage_sort (unitId : ℕ) (d : ImageRows) :
    (Queries.imagesOf unitId d = [] ∧ (Queries.nextImage unitId d).sort = 0) ∨
      ∃ i ∈ Queries.imagesOf unitId d, (Queries.nextImage unitId d).sort = i.sort.toInt + 1 ∧
        ∀ j ∈ Queries.imagesOf unitId d, j.sort.toInt ≤ i.sort.toInt := by
  cases hmax : ((Queries.imagesOf unitId d).map (fun i => i.sort.toInt)).max? with
  | none =>
    left
    refine ⟨List.map_eq_nil_iff.mp (List.max?_eq_none_iff.mp hmax), ?_⟩
    rw [Queries.nextImage, hmax]
    rfl
  | some m =>
    right
    obtain ⟨hmem, hle⟩ := List.max?_eq_some_iff.mp hmax
    obtain ⟨i, hi, rfl⟩ := List.mem_map.mp hmem
    refine ⟨i, hi, ?_, fun j hj => hle _ (List.mem_map_of_mem hj)⟩
    rw [Queries.nextImage, hmax]
    rfl

theorem sort_lt_next {unitId : ℕ} {d : ImageRows} {i : UnitImageRow} (hi : i ∈ d.2.images)
    (hunit : i.unitId = unitId) : i.sort.toInt < (Queries.nextImage unitId d).sort := by
  have hmem : i ∈ Queries.imagesOf unitId d := mem_imagesOf.mpr ⟨hi, hunit⟩
  rcases nextImage_sort unitId d with ⟨hnil, -⟩ | ⟨m, -, hsort, hmax⟩
  · rw [hnil] at hmem
    exact absurd hmem List.not_mem_nil
  · rw [hsort]
    exact Int.lt_add_one_of_le (hmax i hmem)

theorem nextImage_ge (unitId : ℕ) (d : ImageRows) :
    -2 ^ 15 ≤ (Queries.nextImage unitId d).sort := by
  rcases nextImage_sort unitId d with ⟨-, hsort⟩ | ⟨m, -, hsort, -⟩
  · rw [hsort]
    decide
  · have hm := m.sort.le_toInt
    rw [hsort]
    omega

/-- The next `sort` fits its column unless the largest of all is taken. -/
theorem nextImage_fits_iff {unitId : ℕ} {d : ImageRows} :
    (Queries.nextImage unitId d).sort < 2 ^ 15 ↔
      ∀ i ∈ d.2.images, i.unitId = unitId → i.sort ≠ 32767 := by
  have hlargest : (32767 : Int16).toInt = 32767 := rfl
  constructor
  · intro hfits i hi hunit hsort
    have hlt := sort_lt_next hi hunit
    rw [hsort, hlargest] at hlt
    omega
  · intro hfree
    rcases nextImage_sort unitId d with ⟨-, hsort⟩ | ⟨m, hm, hsort, -⟩
    · rw [hsort]
      decide
    · obtain ⟨hmem, hunit⟩ := mem_imagesOf.mp hm
      have hne : m.sort.toInt ≠ 32767 := by
        intro he
        exact hfree m hmem hunit (Int16.toInt_inj.mp (he.trans hlargest.symm))
      have hlt := m.sort.toInt_lt
      rw [hsort]
      omega

/-- The row has the `sort` that was read for it. -/
theorem adminCreateUnitImage_sort {arg : AdminCreateUnitImageParams} {next : NextImage} {uuid : ℕ}
    {now : ℤ} {d : ImageRows} {row : UnitImageRow} {ws : List ImageWrite}
    (h : Queries.adminCreateUnitImage arg next uuid now d = .ok (row, ws)) (hge : -2 ^ 15 ≤ next.sort) :
    row.sort.toInt = next.sort := by
  rw [Queries.adminCreateUnitImage] at h
  split_ifs at h with hsort hissued hcover hunit
  cases h
  exact Int16.toInt_ofInt_of_le (by omega) (by omega)

/-! ### Uploads among other requests -/

section Uploads

open RelyGuarantee

variable {publicURL : String → String}

/-- A finished upload has appended a photo, whatever others commit in the meantime. -/
def appends (publicURL : String → String) (r : ImageSystemReq) :
    Post ImageSystemLock ImageSystemWrite ImageRows (AllResponse ⊕ ImageResponse) :=
  fun _ L W d => ∀ d', ImageRely L d d' → ∀ req, r = .inr (.upload req) →
    ∃ unitId i, req.unitId = some unitId ∧
      Appended unitId d'.2 ((imagePostgres publicURL).view d' W).2 i

theorem appends_stable (r : ImageSystemReq) :
    (photoGuarantee publicURL).Stable (appends publicURL r) := by
  intro a L W d d' hQ hR d'' hR'
  exact hQ d'' (ImageRely.trans hR hR')

/-- The insert: under the lock of the unit, photos only go. -/
theorem createImage_appends {req : ImageUpload} {unitId : ℕ} (hreq : req.unitId = some unitId)
    (url : String) {now : ℤ} {L : List ImageSystemLock} {d : ImageRows} (hL : unitLock unitId ∈ L) :
    (photoGuarantee publicURL).wp now (Images.adminCreateUnitImage ⟨unitId, url⟩)
      (fun a L W d => appends publicURL (.inr (.upload req)) (.inr (.image a)) L W d) L [] d := by
  rw [Images.adminCreateUnitImage, wp_bind]
  refine wp_image (fun d₁ _ _ next ws hnext => ?_)
  cases hnext
  refine wp_image (fun d₂ hR₂ o row ws hrow => ?_)
  obtain ⟨rfl, hid, hrowUnit, hnew, -⟩ := adminCreateUnitImage_ok hrow
  have hsort := adminCreateUnitImage_sort hrow (nextImage_ge _ _)
  have hunit : row.unitId = unitId := hrowUnit
  rintro d₃ hR₃ req' ⟨⟩
  have hnew' : row.id ∉ d₃.2.issued := by
    rw [hid]
    exact fun hissued =>
      hnew (hR₃.fresh o.uuid (List.mem_append_right _ List.mem_cons_self) hissued)
  refine ⟨unitId, row, hreq, appended_insert hunit (not_mem_of_not_issued hnew') ?_⟩
  intro j hj hju
  -- a photo of the unit that is still there was there when its largest `sort` was read
  have hj₂ := hR₃.unit unitId (List.mem_append_left _ (List.mem_append_left _ hL)) j hj hju
  have hj₁ := hR₂.unit unitId (List.mem_append_left _ hL) j hj₂ hju
  rw [Int16.lt_iff_toInt_lt, hsort]
  exact sort_lt_next hj₁ hju

/-- Every request ends so. -/
theorem imageSystem_appends (srv : Server) (texts : Texts) (r : ImageSystemReq) (now : ℤ)
    (d : ImageRows) :
    (photoGuarantee publicURL).wp now (imageSystem srv texts r) (appends publicURL r) [] [] d := by
  by_cases hup : ∃ req, r = .inr (.upload req)
  · obtain ⟨req, rfl⟩ := hup
    refine (wp_map _ _).mpr ((wp_map _ _).mpr ?_)
    exact wp_upload (fun _ url _ _ hreq hL => createImage_appends hreq url hL)
  · refine wp_mono ?_ _ (wp_true _)
    rintro a L W d - d' - req rfl
    exact absurd ⟨req, rfl⟩ hup

/-- **An upload that commits has appended a photo**, in every run. -/
theorem upload_appends {srv : Server} {texts : Texts} {d₀ : ImageRows} {s s' : ImageSys}
    (hs : ImageReaches publicURL srv texts d₀ s) {req : ImageUpload}
    (h : Step (imagePostgres publicURL) (imageSystem srv texts) s (some (.inr (.upload req))) s') :
    ∃ unitId i, req.unitId = some unitId ∧ Appended unitId s.db.2 s'.db.2 i := by
  obtain ⟨req', hreq⟩ : ∃ r : ImageSystemReq, r = .inr (.upload req) := ⟨_, rfl⟩
  rw [← hreq] at h
  cases h with
  | @commit i t a live done fine =>
    have hends := Sound.steady (Steady.ends (appends publicURL) appends_stable
      (imageSystem_appends srv texts)) (imageSystem_verified srv texts) hs i _ live fine
    change (photoGuarantee publicURL).wp t.now t.prog _ _ _ _ at hends
    rw [done] at hends
    exact hends _ (ImageRely.refl _ _) req hreq

end Uploads

/-! ### An upload on its own -/

/-- A photo that the handler takes: the unit's id could be read, the type is one of the three and
the size within bounds. -/
def ImageUpload.Valid (req : ImageUpload) (unitId : ℕ) : Prop :=
  req.unitId = some unitId ∧ req.contentLength ≤ maxImageBytes + 2 ^ 20 ∧
    ∃ file mime ext, req.file = some file ∧ file.size ≤ maxImageBytes ∧ file.mime = some mime ∧
      imageExt mime = some ext

section Alone

variable {publicURL : String → String} {o : Oracle} {now : ℤ} {d : ImageRows}

/-- A statement about photos that reads. -/
theorem reads_image {s : ImageStmt} {v : s.Val} (lift : PgError → ApiError)
    (h : s.eval publicURL o now d = .ok (v, [])) :
    Reads (imagePostgres publicURL) o now d
      (Prog.query lift (Sum.inr s : ImageSystemStmt) : ImageHandler s.Val) v :=
  Reads.query (congrArg (Extra.answerOn Sum.inr) h)

/-- What a statement about photos writes when it is all a request does. -/
theorem alone_image {what : String} {s : ImageStmt} {v : s.Val} {ws : List ImageWrite}
    (h : s.eval publicURL o now d = .ok (v, ws)) :
    (alone (imagePostgres publicURL) o now d (Images.query what s) [] false).2 = ws.map Sum.inr := by
  have heval : (imagePostgres publicURL).eval (Sum.inr s : ImageSystemStmt) o now d
      = .ok (v, ws.map Sum.inr) := congrArg (Extra.answerOn Sum.inr) h
  refine (congrArg Prod.snd alone_query).trans ?_
  rw [heval]

theorem alone_image_error {what : String} {s : ImageStmt} {e : PgError}
    (h : s.eval publicURL o now d = .error e) :
    (alone (imagePostgres publicURL) o now d (Images.query what s) [] false).2 = [] := by
  have heval : (imagePostgres publicURL).eval (Sum.inr s : ImageSystemStmt) o now d = .error e :=
    congrArg (Extra.answerOn Sum.inr) h
  refine (congrArg Prod.snd alone_query).trans ?_
  rw [heval]

theorem reads_require {β : Type} {x : Option β} {b : β} (e : ApiError) (h : x = some b) :
    Reads (imagePostgres publicURL) o now d (Prog.require x e : ImageHandler β) b := by
  rw [h]
  exact .pure b

theorem reads_refuse {bad : Prop} [Decidable bad] (e : ApiError) (h : ¬ bad) :
    Reads (imagePostgres publicURL) o now d (Prog.refuse bad e : ImageHandler PUnit) ⟨⟩ := by
  rw [Prog.refuse, if_neg h]
  exact .pure _

theorem reads_adminLockUnit {unitId : ℕ} (what : String) (h : d.1.1.units.HasKey unitId) :
    Reads (imagePostgres publicURL) o now d (Images.adminLockUnit what unitId) unitId := by
  obtain ⟨u, hu, rfl⟩ := h
  have hfind : d.1.1.units.find? u.id = some u := Table.find?_eq_some_iff.mpr ⟨hu, rfl⟩
  have hlock : (ImageStmt.adminLockUnit u.id).eval publicURL o now d = .ok (some u.id, []) := by
    show Except.ok ((d.1.1.units.find? u.id).map UnitRow.id, []) = _
    rw [hfind]
    rfl
  exact (reads_image _ hlock).bind (.pure _)

theorem reads_adminGetUnit {unitId : ℕ} (lift : PgError → ApiError) (h : d.1.1.units.HasKey unitId) :
    ∃ record, Reads (imagePostgres publicURL) o now d
      (Prog.query lift (Sum.inl (Sum.inr (.adminGet .unit unitId)) : ImageSystemStmt)
        : ImageHandler (Option UnitRecord)) (some record) := by
  obtain ⟨u, hu, rfl⟩ := h
  have hfind : d.1.1.units.find? u.id = some u := Table.find?_eq_some_iff.mpr ⟨hu, rfl⟩
  refine ⟨(u.params (d.1.2.details u.id)).record, Reads.query ?_⟩
  show Except.ok ((d.1.1.units.find? u.id).map _, []) = _
  rw [hfind]
  rfl

/-- What an upload writes is what its insert writes. -/
theorem alone_upload (publicURL : String → String) (now : ℤ) (srv : Server) (texts : Texts)
    {req : ImageUpload} {unitId : ℕ} (hv : req.Valid unitId) (hstored : o.stored = true) (hunit : d.1.1.units.HasKey unitId) :
    ∃ url, (alone (imagePostgres publicURL) o now d
        (imageSystem srv texts (.inr (.upload req))) [] false).2
      = (alone (imagePostgres publicURL) o now d
        (Images.query "unit" (.adminCreateUnitImage ⟨unitId, url⟩ (Queries.nextImage unitId d)))
        [] false).2 := by
  obtain ⟨hid, hlength, file, mime, ext, hfile, hsize, hmime, hext⟩ := hv
  obtain ⟨record, hget⟩ := reads_adminGetUnit (fun e => writeStoreError "unit" (.pg e)) hunit
  have hput : ∀ key, (ImageStmt.put key mime).eval publicURL o now d = .ok (publicURL key, []) :=
    fun key => if_pos hstored
  have huuid : Reads (imagePostgres publicURL) o now d (Prog.query (fun _ => internalError "image upload")
      (Sum.inl (Sum.inl .newUUID) : ImageSystemStmt)) o.uuid := Reads.query rfl
  have hnext : Reads (imagePostgres publicURL) o now d (Images.query "unit" (.nextImage unitId))
      (Queries.nextImage unitId d) := reads_image _ rfl
  refine ⟨publicURL ("units/" ++ uuidString unitId ++ "/" ++ uuidString o.uuid ++ "." ++ ext), ?_⟩
  show (alone _ o now d (Sum.inr <$> ImageResponse.image <$> adminUploadUnitImage req) [] false).2 = _
  rw [alone_map, alone_map, adminUploadUnitImage, (reads_require _ hid).alone_bind, hget.alone_bind,
    (reads_require _ rfl).alone_bind, (reads_refuse _ (not_lt.mpr hlength)).alone_bind,
    (reads_require _ hfile).alone_bind, (reads_refuse _ (not_lt.mpr hsize)).alone_bind,
    (reads_require _ hmime).alone_bind, (reads_require _ hext).alone_bind, huuid.alone_bind,
    (reads_image _ (hput _)).alone_bind, (reads_adminLockUnit _ hunit).alone_bind,
    Images.adminCreateUnitImage, hnext.alone_bind]

/-- The insert of a valid upload fails only for its `sort`. -/
theorem adminCreateUnitImage_eq {unitId : ℕ} (url : String) (now : ℤ) (hfresh : o.uuid ∉ d.2.issued)
    (hunit : d.1.1.units.HasKey unitId) :
    Queries.adminCreateUnitImage ⟨unitId, url⟩ (Queries.nextImage unitId d) o.uuid now d
      = if 2 ^ 15 ≤ (Queries.nextImage unitId d).sort then .error .numericOutOfRange
        else
          let row : UnitImageRow := ⟨o.uuid, unitId, url, none, none,
            Int16.ofInt (Queries.nextImage unitId d).sort, (Queries.nextImage unitId d).isCover, now⟩
          .ok (row, [.insert row]) := by
  have hcover : ¬ ((Queries.nextImage unitId d).isCover ∧ CoverTaken unitId o.uuid d) := by
    rintro ⟨hc, i, hi, -, hiu, hic⟩
    exact nextImage_isCover hc i hi hiu hic
  have hsome : ¬ (d.1.1.units.find? unitId).isNone := by
    rw [Option.isNone_iff_eq_none, Table.find?_eq_none_iff]
    obtain ⟨u, hu, hid⟩ := hunit
    exact fun h => h u hu hid
  rw [Queries.adminCreateUnitImage, if_neg hfresh, if_neg hcover, if_neg hsome]

/-- **A valid upload on its own** inserts its row, or changes nothing when its `sort` does not fit. -/
theorem serve_upload (publicURL : String → String) (now : ℤ) (srv : Server) (texts : Texts)
    {req : ImageUpload} {unitId : ℕ} (hv : req.Valid unitId) (hstored : o.stored = true) (hfresh : o.uuid ∉ d.2.issued)
    (hunit : d.1.1.units.HasKey unitId) :
    ∃ url, serve (imagePostgres publicURL) (imageSystem srv texts) d (.inr (.upload req), o, now)
      = if 2 ^ 15 ≤ (Queries.nextImage unitId d).sort then d
        else (d.1, d.2.insert ⟨o.uuid, unitId, url, none, none,
          Int16.ofInt (Queries.nextImage unitId d).sort, (Queries.nextImage unitId d).isCover, now⟩) := by
  obtain ⟨url, hwrites⟩ := alone_upload publicURL now srv texts hv hstored hunit
  refine ⟨url, ?_⟩
  have heval := adminCreateUnitImage_eq url now hfresh hunit
  rw [serve, hwrites]
  by_cases hfits : 2 ^ 15 ≤ (Queries.nextImage unitId d).sort
  · rw [if_pos hfits] at heval ⊢
    exact congrArg ((imagePostgres publicURL).view d)
      (alone_image_error (s := .adminCreateUnitImage _ _) heval)
  · rw [if_neg hfits] at heval ⊢
    exact congrArg ((imagePostgres publicURL).view d)
      (alone_image (s := .adminCreateUnitImage _ _) heval)

end Alone

/-- **A photo is added at the end.**  In every state of every run: an upload that commits has added
one photo, with a greater `sort` than every other of its unit; and a valid upload does so, when it
runs on its own, exactly if no photo of the unit has the largest `sort` of all. -/
theorem photos_appended (publicURL : String → String) (srv : Server) (texts : Texts) {d₀ : ImageRows}
    {s : ImageSys} (hs : ImageReaches publicURL srv texts d₀ s) :
    (∀ req s', Step (imagePostgres publicURL) (imageSystem srv texts) s (some (.inr (.upload req))) s' →
      ∃ unitId i, req.unitId = some unitId ∧ Appended unitId s.db.2 s'.db.2 i) ∧
    ∀ (req : ImageUpload) (unitId : ℕ) (o : Oracle) (now : ℤ), req.Valid unitId → o.stored = true →
      o.uuid ∉ s.db.2.issued → s.db.1.1.units.HasKey unitId →
      ((∃ i, Appended unitId s.db.2 (serve (imagePostgres publicURL) (imageSystem srv texts) s.db
          (.inr (.upload req), o, now)).2 i) ↔
        ∀ i ∈ s.db.2.images, i.unitId = unitId → i.sort ≠ 32767) := by
  refine ⟨fun req s' hstep => upload_appends hs hstep, ?_⟩
  intro req unitId o now hv hstored hfresh hunit
  obtain ⟨url, hserve⟩ := serve_upload publicURL now srv texts hv hstored hfresh
    hunit
  rw [hserve, ← nextImage_fits_iff]
  constructor
  · rintro ⟨i, happended⟩
    by_contra hfull
    rw [if_pos (not_lt.mp hfull)] at happended
    have hrow := happended.rows i.id
    rw [happended.fresh, if_pos rfl] at hrow
    cases hrow
  · intro hfits
    rw [if_neg (not_le.mpr hfits)]
    refine ⟨_, appended_insert rfl (not_mem_of_not_issued hfresh) ?_⟩
    intro j hj hju
    rw [Int16.lt_iff_toInt_lt, Int16.toInt_ofInt_of_le (nextImage_ge unitId s.db) hfits]
    exact sort_lt_next hj hju

/-! ### The largest `sort` -/

/-- Photo requests of the coast's chalet, served one after the other. -/
def photosServed (rs : List ImageRequest) : ImageRows :=
  serveAll (imagePostgres (fun key => "/" ++ key)) (imageSystem winterServer plainTexts) coastPhotos
    (rs.mapIdx (fun n r => (.inr r, oracleAt (n + 1) (noonOf newYear), noonOf newYear)))

theorem reaches_photosServed (rs : List ImageRequest) :
    ImageReaches (fun key => "/" ++ key) winterServer plainTexts coastPhotos
      (State.quiet (photosServed rs)) :=
  Run.serveAll _ _ _ _ (allowed_anyCommit _ _ _ _) Run.refl

theorem hasKey_of_isSome {d : ImageRows} {unitId : ℕ}
    (h : (d.1.1.units.find? unitId).isSome = true) : d.1.1.units.HasKey unitId := by
  obtain ⟨u, hu⟩ := Option.isSome_iff_exists.mp h
  exact ⟨u, Table.mem_of_find? hu⟩

theorem photoUpload_valid : ImageUpload.Valid ⟨some 1, 2000, some ⟨1500, some "image/jpeg"⟩⟩ 1 :=
  ⟨rfl, by decide, _, _, "jpg", rfl, by decide, rfl, by decide⟩

/-- After one photo, a second can be added. -/
theorem photos_appended_second : ∃ i, Appended 1 (photosServed [photoUpload]).2
    (serve (imagePostgres (fun key => "/" ++ key)) (imageSystem winterServer plainTexts)
      (photosServed [photoUpload]) (.inr photoUpload, oracleAt 2 (noonOf newYear), noonOf newYear)).2 i :=
  ((photos_appended (fun key => "/" ++ key) winterServer plainTexts
    (reaches_photosServed [photoUpload])).2 _ 1 (oracleAt 2 (noonOf newYear)) (noonOf newYear)
    photoUpload_valid rfl (by decide +kernel) (hasKey_of_isSome (by decide +kernel))).mpr
    (by decide +kernel)

/-- The first photo, moved to the end of the list for good. -/
def moveLast : ImageRequest := .patch ⟨some 1, some 1, { sort := .value 32767 }⟩

/-- **A photo that cannot be added.**  One photo of the unit was given the largest `sort`. -/
theorem photos_full :
    ¬ ∀ (publicURL : String → String) (srv : Server) (texts : Texts) (d₀ : ImageRows) (d : ImageRows),
      ImageReaches publicURL srv texts d₀ (State.quiet d) →
      ∀ (req : ImageUpload) (unitId : ℕ) (o : Oracle) (now : ℤ), req.Valid unitId → o.stored = true →
        o.uuid ∉ d.2.issued → d.1.1.units.HasKey unitId →
        ∃ i, Appended unitId d.2 (serve (imagePostgres publicURL) (imageSystem srv texts) d
          (.inr (.upload req), o, now)).2 i := by
  intro h
  obtain ⟨i, happended⟩ := h _ _ _ _ _ (reaches_photosServed [photoUpload, moveLast]) _ 1
    (oracleAt 3 (noonOf newYear)) (noonOf newYear) photoUpload_valid rfl (by decide +kernel)
    (hasKey_of_isSome (by decide +kernel))
  have hsame : (serve (imagePostgres (fun key => "/" ++ key)) (imageSystem winterServer plainTexts)
      (photosServed [photoUpload, moveLast])
      (.inr (.upload ⟨some 1, 2000, some ⟨1500, some "image/jpeg"⟩⟩), oracleAt 3 (noonOf newYear),
        noonOf newYear)).2.images.rows
      = (photosServed [photoUpload, moveLast]).2.images.rows := by decide +kernel
  have hrow := happended.rows i.id
  rw [if_pos rfl] at hrow
  have hmem := (Table.mem_of_find? hrow).1
  rw [Table.mem_def, hsame, ← Table.mem_def] at hmem
  exact Table.find?_eq_none_iff.mp happended.fresh i hmem rfl

end Sahel

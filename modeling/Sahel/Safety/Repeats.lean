import Sahel.Safety.Slugs
import Sahel.Store.CatalogueKeys

/-!
# Edits made twice

A PATCH trims, normalizes and checks every column of its row, not only those it was sent.

* `Kept` is what the rows keep: the constraints, and that every row which was not there at first is
  one a PATCH leaves as it is;
* `kept_of_reaches`: it holds after any POSTs and PATCHes, a statement of one between those of others;
* **`edits_repeat`**: so an empty PATCH goes through and changes nothing, and one that went through
  goes through again and leaves the same row.
-/

set_option autoImplicit false

namespace Sahel

open KeyedTable ReadCommitted AtomicCalls Prog

/-! ### What is kept -/

/-- The constraints hold, and the rows that were added are as a PATCH would leave them. -/
structure Kept (texts : Texts) (d₀ d : Rows) : Prop where
  keys : KeysHold d
  admitted : ∀ (k : Kind) id r, k.find id d₀ = none → k.find id d = some r → k.Admitted texts r

theorem Kept.changed {texts : Texts} {d₀ d d' : Rows} (h : Kept texts d₀ d) {k : Kind} {r : k.Record}
    (hc : Changed k r d d') (hown : k.SlugOwn r d) (href : k.Referable r d)
    (hr : k.Admitted texts r) : Kept texts d₀ d' := by
  refine ⟨h.keys.changed hc hown href, ?_⟩
  intro k' id r' hnew hr'
  by_cases hself : k' = k ∧ id = k.recordId r
  · obtain ⟨rfl, rfl⟩ := hself
    obtain rfl : r = r' := Option.some.inj (hc.self.symm.trans hr')
    exact hr
  · rw [hc.other k' id (not_and_or.mp hself)] at hr'
    exact h.admitted k' id r' hnew hr'

/-! ### What is sent -/

/-- What an update may send: a row a PATCH leaves as it is. -/
def CatalogueStmt.Sends (texts : Texts) : CatalogueStmt → Prop
  | .adminGet _ _ => True
  | .adminUpdate k arg => k.Admitted texts (k.record arg)

/-- And an insert, under whatever id. -/
def CreateStmt.Sends (texts : Texts) : CreateStmt → Prop
  | .adminCreate k arg => ∀ id, k.Admitted texts (k.record (k.withId arg id))

/-- The statements of PATCHes and POSTs. -/
def EditStmt.Sends (texts : Texts) : EditStmt → Prop :=
  Sum.elim (Sum.elim (fun _ => False) (CatalogueStmt.Sends texts)) (CreateStmt.Sends texts)

theorem Kept.reply {texts : Texts} {d₀ : Rows} {st : EditStmt} {o : Oracle} {now : ℤ} {db : EditRows}
    (hst : EditStmt.Sends texts st) (h : Kept texts d₀ db.1) :
    Kept texts d₀ (reply editPostgres st o now db).2.1 := by
  rcases st with (st | ⟨k, id⟩ | ⟨k, arg⟩) | ⟨k, arg⟩
  · exact hst.elim
  · exact h
  · have heval : editPostgres.eval (.inl (.inr (.adminUpdate k arg))) o now db
        = Extra.answerOn Sum.inl (Extra.answerOn Sum.inr (k.update arg db.1)) := rfl
    rw [AtomicCalls.reply, heval]
    cases hu : k.update arg db.1 with
    | error e => exact h
    | ok p =>
      obtain ⟨v, ws⟩ := p
      cases v with
      | none =>
        rcases Kind.update_ok hu with ⟨-, rfl⟩ | ⟨hv, -⟩
        · exact h
        · cases hv
      | some v =>
        obtain ⟨rfl, w, rfl, hw⟩ := Kind.update_guards hu
        exact h.changed hw.changed hw.slugOwn hw.referable hst
  · have heval : editPostgres.eval (.inr (.adminCreate k arg)) o now db
        = Extra.answerOn Sum.inr (k.create (k.withId arg o.uuid) db.1) := rfl
    rw [AtomicCalls.reply, heval]
    cases hc : k.create (k.withId arg o.uuid) db.1 with
    | error e => exact h
    | ok p =>
      obtain ⟨v, ws⟩ := p
      obtain ⟨w, rfl, hw⟩ := Kind.create_ok hc
      refine h.changed hw.changed hw.slugOwn ?_ (hst o.uuid)
      rw [← hw.value]
      exact hw.referable

theorem only_adminPatch (texts : Texts) (k : Kind) (param : Option ℕ) (body : k.Input) :
    (adminPatch texts k param body).Only (Sum.elim (fun _ => False) (CatalogueStmt.Sends texts)) := by
  refine only_bind (only_require _ _) (fun id => ?_)
  refine only_bind (only_bind (only_query _ trivial) (fun _ => only_require _ _)) (fun old => ?_)
  refine only_check_bind (fun row happly => only_check_bind (fun u hchecked => ?_))
  refine only_require_bind (fun arg harg => ?_)
  refine only_bind (only_query _ ?_) (fun _ => only_require _ _)
  show k.Admitted texts (k.record arg)
  rw [Kind.record_params harg]
  exact ⟨Kind.apply_noFields happly, hchecked⟩

/-- Another id and another slug that is taken leave a row that is checked. -/
theorem Kind.Admitted.under {texts : Texts} {k : Kind} {r : k.Record} {b : k.Input} {r₀ : k.Record}
    (h : k.apply texts b r₀ = .ok r) {sl : String}
    (hsl : k ≠ .owner → checkSlug.{0} texts sl = .ok ⟨⟩) (id : ℕ) :
    k.Admitted texts (k.under r sl id) := by
  obtain ⟨hproblems, hedit⟩ := Kind.apply_ok.mp (Kind.apply_noFields h)
  constructor
  · refine Kind.apply_ok.mpr ?_
    cases k with
    | unit => exact ⟨hproblems, congrArg (fun r => Kind.under .unit r sl id) hedit⟩
    | compound => exact ⟨hproblems, congrArg (fun r => Kind.under .compound r sl id) hedit⟩
    | area => exact ⟨hproblems, congrArg (fun r => Kind.under .area r sl id) hedit⟩
    | owner => exact ⟨hproblems, congrArg (fun r => Kind.under .owner r sl id) hedit⟩
  · cases k with
    | owner => rfl
    | _ => exact hsl nofun

section Create

variable {fold : String → Option String} (quote : String → String)

/-- A slug that is resolved is one. -/
theorem resolveSlug_canonical {given source base : String} {explicit : Bool}
    (h : resolveSlug (Slug.texts fold quote) given source = .ok (base, explicit)) :
    Slug.Canonical base.toList := by
  rw [resolveSlug] at h
  split_ifs at h with hgiven hderived
  · cases hc : checkSlug.{0} (Slug.texts fold quote) given with
    | error e =>
      rw [hc] at h
      cases h
    | ok u =>
      rw [hc] at h
      cases h
      rw [checkSlug] at hc
      split_ifs at hc with hbad
      have hmake : Slug.make fold given = given := not_not.mp (not_or.mp hbad).2
      rcases Slug.make_canonical fold given with hempty | hcanonical
      · exact absurd (hmake.symm.trans hempty) hgiven
      · rwa [hmake] at hcanonical
  · cases h
    exact (Slug.make_canonical fold source).resolve_left hderived

theorem only_insertFrom (hfold : Slug.KeepsAscii fold) {k : Kind} {arg : k.Params} {body : k.Input} {r₀ : k.Record}
    (happly : k.apply (Slug.texts fold quote) body r₀ = .ok (k.record arg)) {base : String}
    (hbase : Slug.Canonical base.toList) (explicit : Bool) (left : ℕ) :
    ∀ n, (insertFrom (Slug.texts fold quote) k arg base explicit left n).Only
      (EditStmt.Sends (Slug.texts fold quote)) := by
  have htry : ∀ n, (insertTry (Slug.texts fold quote) k arg base n).Only
      (EditStmt.Sends (Slug.texts fold quote)) := by
    intro n
    refine only_attempt (fun id => ?_)
    obtain ⟨hslug, hchecked⟩ := slugOfTry_numbered hfold quote hbase n
    rw [Kind.record_under, hslug]
    exact Kind.Admitted.under happly (fun _ => hchecked) id
  induction left with
  | zero =>
    intro n
    rw [insertFrom]
    exact only_bind (htry n) (fun row => only_check _ _)
  | succ left ih =>
    intro n
    rw [insertFrom]
    refine only_bind (htry n) (fun row => ?_)
    cases row with
    | ok row => exact .pure row
    | error e =>
      show (if explicit = true ∨ e.code ≠ pgUniqueViolation then _ else _ : EditHandler k.Record).Only _
      split
      · exact .throw _
      · exact ih (n + 1)

theorem only_adminCreate (hfold : Slug.KeepsAscii fold) (k : Kind) (body : k.Input) :
    (adminCreate (Slug.texts fold quote) k body).Only (EditStmt.Sends (Slug.texts fold quote)) := by
  unfold adminCreate
  refine only_check_bind (fun u _ => only_check_bind (fun row happly => ?_))
  cases hslug : k.slug row with
  | some given =>
    refine only_check_bind (fun p hp => only_require_bind (fun arg harg => ?_))
    rw [← Kind.record_params harg] at happly
    exact only_insertFrom quote hfold happly (resolveSlug_canonical quote hp) p.2 49 1
  | none =>
    refine only_require_bind (fun arg harg => only_query _ (fun id => ?_))
    cases k with
    | owner =>
      rw [← Kind.record_params harg] at happly
      have hslugless : Kind.owner ≠ .owner → checkSlug.{0} (Slug.texts fold quote) "" = .ok ⟨⟩ :=
        fun hne => absurd rfl hne
      exact Kind.Admitted.under happly hslugless id
    | _ => cases hslug

/-- `Kept`, of a state's rows. -/
def KeptRows (texts : Texts) (d₀ : Rows) (db : EditRows) : Prop := Kept texts d₀ db.1

/-- **After any POSTs and PATCHes.** -/
theorem kept_of_reaches (hfold : Slug.KeepsAscii fold) {d₀ : Rows} (h₀ : KeysHold d₀) {s : EditSys}
    (h : EditReaches (Slug.texts fold quote) d₀ s) : Kept (Slug.texts fold quote) d₀ s.db.1 := by
  show KeptRows (Slug.texts fold quote) d₀ s.db
  refine Reaches.invariant ?_ (fun st o now db hst hdb => Kept.reply hst hdb) ⟨h₀, ?_⟩ h
  · intro r
    cases r with
    | inl r =>
      exact (only_map _ (only_adminPatch (Slug.texts fold quote) r.kind r.param r.body)).lift
    | inr r => exact only_map _ (only_map _ (only_adminCreate quote hfold r.kind r.body))
  · intro k id r hnew hr
    rw [hnew] at hr
    cases hr

end Create

/-! ### One PATCH -/

section Patch

variable {texts : Texts} {k : Kind} {id : ℕ} {b : k.Input} {now : ℤ} {os : ℕ → Oracle} {d : Rows}

theorem serve_adminUpdate {arg : k.Params} {v : Option k.Record} {ws : List CatalogueWrite}
    (h : k.update arg d = .ok (v, ws)) :
    serve fullPostgres now (adminUpdate k arg) os d
      = serve fullPostgres now (Prog.require v (writeStoreError k.what .noRows))
          (fun n => os (n + 1)) (catalogue.database.view d (ws.map Sum.inr)) := by
  have heval : fullPostgres.eval (.inr (.adminUpdate k arg)) (os 0) now d = .ok (v, ws.map Sum.inr) := by
    show Extra.answerOn Sum.inr (k.update arg d) = _
    rw [h]
    rfl
  exact serve_query_bind heval

/-- A PATCH, once its row is read. -/
theorem serve_adminPatch : serve fullPostgres now (adminPatch texts k (some id) b) os d =
    serve fullPostgres now (do
      let row ← Prog.require (k.find id d) (writeStoreError k.what .noRows)
      let row ← Prog.check (k.apply texts b row) writeInvalid
      let _ ← Prog.check (Kind.checked.{0} texts k row) writeInvalid
      let arg ← Prog.require (k.params? row) (internalError k.what)
      adminUpdate k arg) (fun n => os (n + 1)) d :=
  rfl

/-- A PATCH that goes through has found its row, and has stored what the body makes of it. -/
theorem serve_adminPatch_ok {r' : k.Record} {d' : Rows}
    (h : serve fullPostgres now (adminPatch texts k (some id) b) os d = (.ok r', d')) :
    ∃ r arg w, k.find id d = some r ∧ k.apply texts b r = .ok r' ∧ Kind.checked.{0} texts k r' = .ok ⟨⟩ ∧
      k.record arg = r' ∧ Updates k arg d w ∧ d' = applyCatalogue d w := by
  rw [serve_adminPatch] at h
  obtain ⟨r, hfind, h⟩ := serve_require_bind_ok h
  obtain ⟨row, happly, h⟩ := serve_check_bind_ok h
  obtain ⟨u, hchecked, h⟩ := serve_check_bind_ok h
  obtain ⟨arg, harg, h⟩ := serve_require_bind_ok h
  obtain ⟨v, ws, heval, h⟩ := serve_query_bind_ok h
  obtain ⟨ws₀, hupdate, rfl⟩ := Extra.eval_inr heval
  cases v with
  | none => cases h
  | some v =>
    obtain ⟨rfl, w, rfl, hw⟩ := Kind.update_guards hupdate
    cases h
    have hrecord := Kind.record_params harg
    subst hrecord
    exact ⟨r, arg, w, hfind, happly, hchecked, rfl, hw, rfl⟩

/-- **A PATCH that changes no column** goes through and changes nothing. -/
theorem serve_adminPatch_self {r : k.Record} (hkeys : KeysHold d) (hfind : k.find id d = some r)
    (happly : k.apply texts b r = .ok r) (hchecked : Kind.checked.{0} texts k r = .ok ⟨⟩) :
    ∃ d', serve fullPostgres now (adminPatch texts k (some id) b) os d = (.ok r, d') ∧
      ∀ (k' : Kind) (id' : ℕ), k'.find id' d' = k'.find id' d := by
  obtain ⟨arg, harg, hstore⟩ := Kind.params_of_checked (Kind.apply_ok.mp happly).1
  have hrecord := Kind.record_params harg
  have hid : k.id arg = id := by
    rw [← Kind.recordId_record, hrecord, Kind.recordId_find hfind]
  have hfound : (k.find (k.id arg) d).isSome := by
    rw [hid, hfind]
    rfl
  have hown : k.SlugOwn (k.record arg) d := hrecord.symm ▸ hkeys.slugs k id r hfind
  have href : k.Referable (k.record arg) d := hrecord.symm ▸ hkeys.refs k id r hfind
  obtain ⟨w, hupdate, hw⟩ := Kind.update_of_guards hfound hstore hown href
  refine ⟨applyCatalogue d w, ?_, ?_⟩
  · rw [serve_adminPatch, hfind]
    show serve fullPostgres now (Prog.check (k.apply texts b r) writeInvalid >>= _) _ d = _
    rw [happly]
    show serve fullPostgres now (Prog.check (Kind.checked.{0} texts k r) writeInvalid >>= _) _ d = _
    rw [hchecked]
    show serve fullPostgres now (Prog.require (k.params? r) (internalError k.what) >>= _) _ d = _
    rw [harg]
    refine (serve_adminUpdate hupdate).trans ?_
    rw [hrecord]
    rfl
  · intro k' id'
    by_cases hself : k' = k ∧ id' = k.id arg
    · obtain ⟨rfl, rfl⟩ := hself
      rw [hw.self d hfound, hrecord, hid, hfind]
    · exact hw.other k' id' d (not_and_or.mp hself)

end Patch

/-- **Edits made twice.**  From rows the constraints hold of, and after any POSTs and PATCHes, a row that
was added is one that trimming, normalizing and checking leave as it is; an empty PATCH of it goes
through, answers it and changes no column of any row; and a PATCH of it that goes through goes through
again, with the same answer, and changes no column either. -/
theorem edits_repeat {fold : String → Option String} (hfold : Slug.KeepsAscii fold)
    (quote : String → String) {d₀ : Rows} (h₀ : KeysHold d₀) {s : EditSys}
    (h : EditReaches (Slug.texts fold quote) d₀ s) {k : Kind} {id : ℕ} (hnew : k.find id d₀ = none)
    {r : k.Record} (hr : k.find id s.db.1 = some r) :
    k.Admitted (Slug.texts fold quote) r ∧
      (∀ now os, ∃ d,
        serve fullPostgres now (adminPatch (Slug.texts fold quote) k (some id) k.noFields) os s.db.1
          = (.ok r, d) ∧ ∀ (k' : Kind) (id' : ℕ), k'.find id' d = k'.find id' s.db.1) ∧
      ∀ b now os r' d',
        serve fullPostgres now (adminPatch (Slug.texts fold quote) k (some id) b) os s.db.1 = (.ok r', d') →
        ∀ now' os', ∃ d,
          serve fullPostgres now' (adminPatch (Slug.texts fold quote) k (some id) b) os' d' = (.ok r', d) ∧
          ∀ (k' : Kind) (id' : ℕ), k'.find id' d = k'.find id' d' := by
  have hkept := kept_of_reaches quote hfold h₀ h
  have hadmitted := hkept.admitted k id r hnew hr
  refine ⟨hadmitted, fun now os => ?_, ?_⟩
  · exact serve_adminPatch_self hkept.keys hr hadmitted.apply hadmitted.checked
  · intro b now os r' d' hpatch now' os'
    obtain ⟨r₀, arg, w, hfind, happly, hchecked, rfl, hw, rfl⟩ := serve_adminPatch_ok hpatch
    have hkeys := hkept.keys.changed hw.changed hw.slugOwn hw.referable
    have hfound : k.find id (applyCatalogue s.db.1 w) = some (k.record arg) := by
      have hid := (Kind.apply_follows happly).1
      rw [Kind.recordId_find hfind] at hid
      rw [← hid]
      exact hw.changed.self
    exact serve_adminPatch_self hkeys hfound (Kind.apply_again happly) hchecked

/-! ### A row of an empty catalogue -/

def bareRows : Rows :=
  ({ turnoverWorld with units := Table.empty },
    { details := fun _ => seaDetails, compounds := Table.empty, areas := Table.empty,
      owners := Table.empty })

theorem find_bareRows (k : Kind) (id : ℕ) : k.find id bareRows = none := by
  cases k <;> rfl

theorem bareRows_keysHold : KeysHold bareRows := by
  constructor
  · intro k id r hr
    rw [find_bareRows] at hr
    cases hr
  · intro k id r hr
    rw [find_bareRows] at hr
    cases hr

/-- The rows after an area is added under the id 7. -/
def oneArea : EditRows :=
  (serve editPostgres 0 (editProgram (Slug.texts some id) (.inr ⟨.area, sameName⟩))
    (fun n => oracleAt (n + 7) 0) (bareRows, ⟨⟩)).2

/-- An empty PATCH of it. -/
theorem edits_repeat_area : ∃ d,
    serve fullPostgres 0 (adminPatch (Slug.texts some id) .area (some 7) (Kind.noFields .area))
      (fun n => oracleAt n 0) oneArea.1
      = (.ok ⟨7, "sidi-abdel-rahman", "سيدي عبد الرحمن", "Sidi Abdel  Rahman", .known .northCoast, none, 0⟩,
        d) ∧
    ∀ (k' : Kind) (id' : ℕ), k'.find id' d = k'.find id' oneArea.1 := by
  obtain ⟨calls, hreach⟩ := Reaches.serve (D := editPostgres)
    (.refl : EditReaches (Slug.texts some id) bareRows ⟨(bareRows, ⟨⟩), []⟩)
    (.inr ⟨.area, sameName⟩) (fun n => oracleAt (n + 7) 0) 0
  have hfound : Kind.find .area 7 oneArea.1 = some ⟨7, "sidi-abdel-rahman", "سيدي عبد الرحمن",
      "Sidi Abdel  Rahman", .known .northCoast, none, 0⟩ := by
    decide +kernel
  exact (edits_repeat (show Slug.KeepsAscii some from fun _ _ => rfl) id bareRows_keysHold hreach
    (find_bareRows .area 7) hfound).2.1 0 (fun n => oracleAt n 0)

end Sahel

import Sahel.Library.Schedule
import Sahel.Http.AdminColumns
import Sahel.Model.World

/-!
# Concurrent edits of a row

A PATCH reads a row, edits it in memory and writes every column back.  An edit that reads before
another one is written therefore writes the other's columns back as they were.

* `RowFresh` is the condition on an edit: what its body leaves out is as it has read it;
* **`edited_in_order`**: in a run of such edits every column is what the edits make of it one after
  the other;
* **`edits_kept`**: so two edits of different fields both stand;
* **`edits_lost`**: in other runs the later one undoes the earlier.
-/

set_option autoImplicit false

namespace Sahel

open KeyedTable ReadCommitted

/-! ### The row an edit reads -/

/-- The bookings' writes leave the catalogue alone. -/
theorem Kind.find_view_inl (k : Kind) (id : ℕ) (W : List Write) (d : Rows) :
    k.find id (fullPostgres.view d (W.map Sum.inl)) = k.find id d := by
  have hunits : (postgres.view d.1 W).units = d.1.units := units.part_view W d.1
  rw [Extra.view_inl]
  cases k with
  | unit =>
    show ((postgres.view d.1 W).units.find? id).map _ = _
    rw [hunits]
    rfl
  | _ => rfl

/-- A statement that read the row. -/
def readsRow (k : Kind) (id : ℕ) (e : Event Rows Oracle AllStmt) : Prop :=
  e.stmt = .inr (.adminGet k id)

/-- The body a request edits the row with. -/
def editOf (k : Kind) (id : ℕ) : AllReq → Option k.Input
  | .inr ⟨k', param, body⟩ => if h : k' = k ∧ param = some id then some (h.1 ▸ body) else none
  | .inl _ => none

theorem editOf_self {k : Kind} {id : ℕ} (body : k.Input) :
    editOf k id (.inr ⟨k, some id, body⟩) = some body := dif_pos ⟨rfl, rfl⟩

/-- Two rows agree on the columns a body leaves out. -/
def AgreeOutside {k : Kind} (body : k.Input) (row row' : k.Record) : Prop :=
  ∀ c ∈ k.columns, c.asked body = none → c.get row = c.get row'

/-- The condition on a commit: an edit of the row finds what its body leaves out as it has read it. -/
def RowFresh (k : Kind) (id : ℕ) (l : FullLog) (i : ℕ) (r : AllReq) : Prop :=
  ∀ body, editOf k id r = some body → ∀ e ∈ l.log i, readsRow k id e →
    ∀ row, k.find id e.db = some row →
      ∃ row', k.find id l.state.db = some row' ∧ AgreeOutside body row row'

/-! ### What an edit has run -/

/-- An edit that commits has read its row and stored what the body makes of it. -/
structure Patched (texts : Texts) (r : PatchReq) (es : List (Event Rows Oracle AllStmt))
    (W : List (Write ⊕ CatalogueWrite)) (id : ℕ) (row : r.kind.Record) (arg : r.kind.Params)
    (read update : Event Rows Oracle AllStmt) (w : CatalogueWrite) : Prop where
  param : r.param = some id
  ran : read ∈ es ∧ update ∈ es
  readStmt : read.stmt = .inr (.adminGet r.kind id)
  found : r.kind.find id read.db = some row
  applied : r.kind.apply texts r.body row = .ok (r.kind.record arg)
  updateStmt : update.stmt = .inr (.adminUpdate r.kind arg)
  stores : Stores r.kind arg w
  writes : W = [.inr w]

theorem Patched.arg_id {texts : Texts} {r : PatchReq} {es : List (Event Rows Oracle AllStmt)}
    {W : List (Write ⊕ CatalogueWrite)} {id : ℕ} {row : r.kind.Record} {arg : r.kind.Params}
    {read update : Event Rows Oracle AllStmt} {w : CatalogueWrite}
    (h : Patched texts r es W id row arg read update w) : r.kind.id arg = id := by
  rw [← Kind.recordId_record, (Kind.apply_follows h.applied).1, Kind.recordId_find h.found]

theorem ran_adminPatch {texts : Texts} {r : PatchReq} {now : ℤ}
    {es : List (Event Rows Oracle AllStmt)} {W : List (Write ⊕ CatalogueWrite)} {row' : r.kind.Record}
    (h : Ran fullPostgres now (adminPatch texts r.kind r.param r.body) [] es row' W) :
    ∃ id row arg read update w, Patched texts r es W id row arg read update w := by
  obtain ⟨es₁, es₂, id, W₁, rfl, hid, h₁⟩ := Ran.of_bind h
  obtain ⟨rfl, hparam, rfl⟩ := Ran.of_require hid
  obtain ⟨es₃, es₄, row, W₂, rfl, hget, h₂⟩ := Ran.of_bind h₁
  obtain ⟨es₅, es₆, row?, W₃, rfl, hread, hsome₁⟩ := Ran.of_bind hget
  obtain ⟨o₁, d₁, ws, rfl, heval₁, rfl⟩ := Ran.of_query hread
  obtain ⟨rfl, rfl, rfl⟩ := Ran.of_require hsome₁
  obtain ⟨ws₁, he₁, rfl⟩ := Extra.eval_inr heval₁
  obtain ⟨es₇, es₈, row₁, W₄, rfl, hbody, h₃⟩ := Ran.of_bind h₂
  obtain ⟨rfl, happly, rfl⟩ := Ran.of_check hbody
  obtain ⟨es₉, es₁₀, x, W₅, rfl, hslug, h₄⟩ := Ran.of_bind h₃
  obtain ⟨rfl, -, rfl⟩ := Ran.of_check hslug
  obtain ⟨es₁₁, es₁₂, arg, W₆, rfl, hrequire, h₅⟩ := Ran.of_bind h₄
  obtain ⟨rfl, hparams, rfl⟩ := Ran.of_require hrequire
  obtain ⟨es₁₃, es₁₄, row₂, W₇, rfl, hupdate, hsome₂⟩ := Ran.of_bind h₅
  obtain ⟨o₂, d₂, ws', rfl, heval₂, rfl⟩ := Ran.of_query hupdate
  obtain ⟨rfl, rfl, rfl⟩ := Ran.of_require hsome₂
  obtain ⟨ws₂, he₂, rfl⟩ := Extra.eval_inr heval₂
  have hfound : r.kind.find id d₁ = some row := congrArg Prod.fst (Except.ok.inj he₁)
  have hnone : ws₁ = [] := (congrArg Prod.snd (Except.ok.inj he₁)).symm
  subst hnone
  rcases Kind.update_ok he₂ with ⟨hv, -⟩ | ⟨-, w, rfl, hw⟩
  · cases hv
  · refine ⟨id, row, arg, ⟨.inr (.adminGet r.kind id), o₁, d₁⟩, ⟨.inr (.adminUpdate r.kind arg), o₂, d₂⟩,
      w, hparam, ⟨by simp, by simp⟩, rfl, hfound, ?_, rfl, hw, rfl⟩
    rw [Kind.record_params hparams]
    exact happly

theorem ran_patch {srv : Server} {texts : Texts} {r : PatchReq} {now : ℤ}
    {es : List (Event Rows Oracle AllStmt)} {W : List (Write ⊕ CatalogueWrite)} {a : AllResponse}
    (h : Ran fullPostgres now (fullProgram srv texts (.inr r)) [] es a W) :
    ∃ id row arg read update w, Patched texts r es W id row arg read update w := by
  obtain ⟨v, -, hpatch⟩ := Ran.of_map h
  obtain ⟨row', -, hran⟩ := Ran.of_map hpatch
  exact ran_adminPatch hran

/-- The row it edits is stored as the body makes it. -/
theorem Patched.find_self {texts : Texts} {r : PatchReq} {es : List (Event Rows Oracle AllStmt)}
    {W : List (Write ⊕ CatalogueWrite)} {id : ℕ} {row : r.kind.Record} {arg : r.kind.Params}
    {read update : Event Rows Oracle AllStmt} {w : CatalogueWrite}
    (h : Patched texts r es W id row arg read update w) {d : Rows} (hsome : (r.kind.find id d).isSome) :
    r.kind.find id (applyCatalogue d w) = some (r.kind.record arg) := by
  have hstored := h.stores.self d
  rw [h.arg_id] at hstored
  exact hstored hsome

/-- Any other row stays. -/
theorem Patched.find_other {texts : Texts} {r : PatchReq} {es : List (Event Rows Oracle AllStmt)}
    {W : List (Write ⊕ CatalogueWrite)} {id : ℕ} {row : r.kind.Record} {arg : r.kind.Params}
    {read update : Event Rows Oracle AllStmt} {w : CatalogueWrite}
    (h : Patched texts r es W id row arg read update w) {k : Kind} {id' : ℕ}
    (hother : ¬ (r.kind = k ∧ r.param = some id')) (d : Rows) :
    k.find id' (applyCatalogue d w) = k.find id' d := by
  refine h.stores.other k id' d ?_
  rw [h.arg_id]
  by_cases hk : r.kind = k
  · refine Or.inr (fun hid => hother ⟨hk, ?_⟩)
    rw [hid]
    exact h.param
  · exact Or.inl (Ne.symm hk)

section Commits

variable {srv : Server} {texts : Texts} {d₀ : Rows} {rs : List AllReq} {l l' : FullLog} {i : ℕ}
  {ok : FullLog → ℕ → AllReq → Prop}

/-- **An edit that commits** is one that has run and stores its row. -/
theorem commit_patched (h : LRun fullPostgres (fullProgram srv texts) ok (Logged.quiet d₀) rs l)
    {r : PatchReq} (hstep : LStep fullPostgres (fullProgram srv texts) l (some (i, .inr r)) l') :
    ∃ id row arg read update w W, Patched texts r (l.log i) W id row arg read update w ∧
      l'.state.db = applyCatalogue l.state.db w := by
  obtain ⟨t, a, live, done, fine, hreq, hdb⟩ := hstep.committed
  have hran := h.told.commit live done fine
  rw [hreq] at hran
  obtain ⟨id, row, arg, read, update, w, hp⟩ := ran_patch hran
  refine ⟨id, row, arg, read, update, w, t.writes, hp, ?_⟩
  rw [hdb, hp.writes]
  rfl

/-- Any other commit leaves the catalogue's rows alone. -/
theorem commit_find (h : LRun fullPostgres (fullProgram srv texts) ok (Logged.quiet d₀) rs l)
    {r : Req} (hstep : LStep fullPostgres (fullProgram srv texts) l (some (i, .inl r)) l') (k : Kind)
    (id : ℕ) : k.find id l'.state.db = k.find id l.state.db := by
  obtain ⟨t, a, live, done, fine, hreq, hdb⟩ := hstep.committed
  obtain ⟨q, L, W, -, hW, -⟩ := ((units_fits srv texts).run h).commit_op live done fine hreq
  rw [hdb, hW]
  exact k.find_view_inl id W _

end Commits

/-! ### One edit after the other -/

/-- What edits make of a column, one after the other. -/
def Column.settled {Record Input : Type} (c : Column Record Input) (v : c.Val) (bodies : List Input) :
    c.Val :=
  bodies.foldl (fun v body => c.tidy ((c.asked body).getD v)) v

theorem Column.settled_snoc {Record Input : Type} (c : Column Record Input) (v : c.Val)
    (bodies : List Input) (body : Input) :
    c.settled v (bodies ++ [body]) = c.tidy ((c.asked body).getD (c.settled v bodies)) :=
  List.foldl_concat _ _ _ _

/-- The row is what the edits made of it, column by column. -/
def EditedInOrder (k : Kind) (id : ℕ) (d₀ d : Rows) (bodies : List k.Input) : Prop :=
  (bodies = [] ∧ k.find id d = k.find id d₀) ∨
    ∃ row₀ row, k.find id d₀ = some row₀ ∧ k.find id d = some row ∧
      ∀ c ∈ k.columns, c.get row = c.settled (c.get row₀) bodies

theorem EditedInOrder.start {k : Kind} {id : ℕ} {d₀ d : Rows} {bodies : List k.Input}
    (h : EditedInOrder k id d₀ d bodies) {row : k.Record} (hd : k.find id d = some row) :
    ∃ row₀, k.find id d₀ = some row₀ ∧ ∀ c ∈ k.columns, c.get row = c.settled (c.get row₀) bodies := by
  rcases h with ⟨rfl, hsame⟩ | ⟨row₀, row₁, h₀, h₁, hall⟩
  · exact ⟨row, hsame ▸ hd, fun c _ => rfl⟩
  · obtain rfl : row = row₁ := Option.some.inj (hd.symm.trans h₁)
    exact ⟨row₀, h₀, hall⟩

/-- One more edit, of a row that it has read as it is but for the columns it names. -/
theorem EditedInOrder.snoc {texts : Texts} {k : Kind} {id : ℕ} {d₀ d d' : Rows} {bodies : List k.Input}
    (h : EditedInOrder k id d₀ d bodies) {body : k.Input} {read row row' : k.Record}
    (hd : k.find id d = some row) (hd' : k.find id d' = some row')
    (happly : k.apply texts body read = .ok row') (hfresh : AgreeOutside body read row) :
    EditedInOrder k id d₀ d' (bodies ++ [body]) := by
  obtain ⟨row₀, h₀, hall⟩ := h.start hd
  refine Or.inr ⟨row₀, row', h₀, hd', fun c hc => ?_⟩
  have hfollows : c.get row' = c.tidy ((c.asked body).getD (c.get read)) :=
    (Kind.apply_follows happly).2 c hc
  rw [hfollows, Column.settled_snoc, ← hall c hc]
  cases hasked : c.asked body with
  | none => rw [Option.getD_none, Option.getD_none, hfresh c hc hasked]
  | some v => rfl

theorem EditedInOrder.congr {k : Kind} {id : ℕ} {d₀ d d' : Rows} {bodies : List k.Input}
    (h : EditedInOrder k id d₀ d bodies) (hd : k.find id d' = k.find id d) :
    EditedInOrder k id d₀ d' bodies := by
  rw [EditedInOrder, hd]
  exact h

/-- **Edits that do not overlap are made in order.** -/
theorem edited_in_order (srv : Server) (texts : Texts) (k : Kind) (id : ℕ) {d₀ : Rows}
    {rs : List AllReq} {l : FullLog}
    (h : LRun fullPostgres (fullProgram srv texts) (RowFresh k id) (Logged.quiet d₀) rs l) :
    EditedInOrder k id d₀ l.state.db (rs.filterMap (editOf k id)) := by
  induction h with
  | refl => exact Or.inl ⟨rfl, rfl⟩
  | quiet hrun hstep ih =>
    rw [(hstep.step _ _).db_eq]
    exact ih
  | @commit rs l l' i r hrun hstep hok ih =>
    rw [List.filterMap_append]
    cases r with
    | inl r =>
      rw [List.filterMap_cons_none rfl, List.filterMap_nil, List.append_nil]
      exact ih.congr (commit_find hrun hstep k id)
    | inr p =>
      obtain ⟨id', row, arg, read, update, w, W, hp, hdb⟩ := commit_patched hrun hstep
      rw [hdb]
      by_cases hself : p.kind = k ∧ p.param = some id
      · -- The row it edits still has what the body leaves out.
        obtain ⟨k', param, body⟩ := p
        obtain ⟨rfl, rfl⟩ := hself
        obtain rfl : id = id' := Option.some.inj hp.param
        obtain ⟨row', hnow, hagree⟩ := hok body (editOf_self body) read hp.ran.1 hp.readStmt row hp.found
        have hstored : k'.find id (applyCatalogue l.state.db w) = some (k'.record arg) :=
          hp.find_self (by rw [hnow]; rfl)
        rw [List.filterMap_cons_some (editOf_self body), List.filterMap_nil]
        exact ih.snoc hnow hstored hp.applied hagree
      · rw [List.filterMap_cons_none (dif_neg hself), List.filterMap_nil, List.append_nil]
        exact ih.congr (hp.find_other hself l.state.db)

/-! ### Two edits -/

/-- The bodies set no field in common. -/
def DisjointFields {k : Kind} (b₁ b₂ : k.Input) : Prop :=
  ∀ c ∈ k.columns, (c.asked b₁).isSome → (c.asked b₂).isNone

instance {k : Kind} (b₁ b₂ : k.Input) : Decidable (DisjointFields b₁ b₂) :=
  inferInstanceAs (Decidable (∀ c ∈ _, _))

/-- What neither body names is stored as an edit would store it. -/
def TidyOutside {k : Kind} (b₁ b₂ : k.Input) (row : k.Record) : Prop :=
  ∀ c ∈ k.columns, c.asked b₁ = none → c.asked b₂ = none → c.tidy (c.get row) = c.get row

/-- Both edits stand: each field named has its value, the others are as they were. -/
structure BothKept {k : Kind} (b₁ b₂ : k.Input) (row₀ row : k.Record) : Prop where
  first : ∀ c ∈ k.columns, ∀ v, c.asked b₁ = some v → c.get row = c.tidy v
  second : ∀ c ∈ k.columns, ∀ v, c.asked b₂ = some v → c.get row = c.tidy v
  rest : ∀ c ∈ k.columns, c.asked b₁ = none → c.asked b₂ = none → c.get row = c.get row₀

theorem bothKept_of_settled {k : Kind} {b₁ b₂ : k.Input} {row₀ row : k.Record}
    (hdisj : DisjointFields b₁ b₂) (htidy : TidyOutside b₁ b₂ row₀)
    (h : ∀ c ∈ k.columns, c.get row = c.settled (c.get row₀) [b₁, b₂]) : BothKept b₁ b₂ row₀ row := by
  have htwo : ∀ c ∈ k.columns, c.get row
      = c.tidy ((c.asked b₂).getD (c.tidy ((c.asked b₁).getD (c.get row₀)))) := h
  constructor
  · intro c hc v hv
    have hnone := Option.isNone_iff_eq_none.mp (hdisj c hc (by rw [hv]; rfl))
    rw [htwo c hc, hnone, Option.getD_none, hv, Option.getD_some, c.tidy_tidy]
  · intro c hc v hv
    rw [htwo c hc, hv, Option.getD_some]
  · intro c hc hn₁ hn₂
    rw [htwo c hc, hn₂, Option.getD_none, hn₁, Option.getD_none, c.tidy_tidy, htidy c hc hn₁ hn₂]

/-- **Both edits stand.**  In a run in which every edit of the row finds what its body leaves out as
it has read it, two edits of different fields are both in the row at the end, and every other column
is as it was. -/
theorem edits_kept (srv : Server) (texts : Texts) (k : Kind) (id : ℕ) {d₀ : Rows} {rs : List AllReq}
    {l : FullLog} (h : LRun fullPostgres (fullProgram srv texts) (RowFresh k id) (Logged.quiet d₀) rs l)
    {b₁ b₂ : k.Input} (htwo : rs.filterMap (editOf k id) = [b₁, b₂]) (hdisj : DisjointFields b₁ b₂)
    (htidy : ∀ row ∈ k.find id d₀, TidyOutside b₁ b₂ row) :
    ∃ row₀ row, k.find id d₀ = some row₀ ∧ k.find id l.state.db = some row ∧
      BothKept b₁ b₂ row₀ row := by
  have hedited := edited_in_order srv texts k id h
  rw [htwo] at hedited
  rcases hedited with ⟨hnil, -⟩ | ⟨row₀, row, h₀, hrow, hall⟩
  · cases hnil
  · exact ⟨row₀, row, h₀, hrow, bothKept_of_settled hdisj (htidy row₀ h₀) hall⟩

/-! ### Two runs -/

/-- Transaction `i` runs a statement. -/
def runs (i : ℕ) : Move AllReq Oracle := .exec i (oracleAt i (noonOf newYear))

def starts (i : ℕ) (r : PatchReq) : Move AllReq Oracle := .start i (.inr r) (noonOf newYear)

/-- An area gets another name, with a blank around it. -/
def renamed : AreaInput := { nameEn := .value " Ras El Hekma " }

/-- And another place among the areas. -/
def reordered : AreaInput := { sortOrder := .value 3 }

/-- No name at all, which is refused. -/
def unnamed : AreaInput := { nameEn := .value "" }

theorem tidy_area :
    ∀ row ∈ Kind.find .area 1 coast, TidyOutside (k := .area) renamed reordered row := by
  intro row hrow
  cases hrow
  simp only [TidyOutside, Kind.columns, areaColumns, List.forall_mem_cons]
  refine ⟨fun _ _ => rfl, fun _ _ => ?_, fun h => ?_, fun _ _ => rfl, fun _ _ => rfl, fun _ _ => rfl,
    fun _ hc => absurd hc List.not_mem_nil⟩
  · show trimSpace "سيدي عبد الرحمن" = "سيدي عبد الرحمن"
    decide +kernel
  · cases h

/-- Every statement transaction `i` has run saw the area as it is. -/
def areaFresh (l : FullLog) (i : ℕ) : Bool :=
  (l.log i).all (fun e => decide ((e.db.2.areas.find? 1).map AreaRow.record
    = (l.state.db.2.areas.find? 1).map AreaRow.record))

theorem rowFresh_of_areaFresh (l : FullLog) (i : ℕ) (r : AllReq) (h : areaFresh l i = true) :
    RowFresh .area 1 l i r := by
  intro body _ e he _ row hrow
  have hsame := of_decide_eq_true (List.all_eq_true.mp h e he)
  exact ⟨row, hsame.symm.trans hrow, fun _ _ _ => rfl⟩

/-- One edit after the other, while a third one that will be refused has read the row. -/
theorem edits_kept_area : ∃ row₀ row, BothKept (k := .area) renamed reordered row₀ row ∧
    row.nameEn = "Ras El Hekma" ∧ row.sortOrder = 3 := by
  have hplayed : (plays fullPostgres (fullProgram winterServer plainTexts) areaFresh 3
      [starts 2 ⟨.area, some 1, unnamed⟩, runs 2, starts 0 ⟨.area, some 1, renamed⟩, runs 0, runs 0,
        .commit 0, starts 1 ⟨.area, some 1, reordered⟩, runs 1, runs 1, .commit 1]
      (Logged.quiet coast) []).any (fun p =>
        decide (p.1.filterMap (editOf .area 1) = [renamed, reordered])) = true := by
    decide +kernel
  obtain ⟨rs, l, hrun, -, htest⟩ :=
    LRun.of_plays _ (fun l i r _ => rowFresh_of_areaFresh l i r) hplayed
  obtain ⟨row₀, row, -, -, hkept⟩ := edits_kept winterServer plainTexts .area 1 hrun
    (of_decide_eq_true htest) (by decide) tidy_area
  have hname : row.nameEn = trimSpace " Ras El Hekma " :=
    hkept.first (Column.text AreaRecord.nameEn AreaInput.nameEn) (List.mem_of_getElem? (i := 2) rfl)
      _ rfl
  have hplace : row.sortOrder = 3 :=
    hkept.second (Column.plain AreaRecord.sortOrder AreaInput.sortOrder)
      (List.mem_of_getElem? (i := 5) rfl) _ rfl
  refine ⟨row₀, row, hkept, ?_, hplace⟩
  rw [hname]
  decide +kernel

def pausing : UnitInput := { status := .value (.known .paused) }

def repricing : UnitInput := { nightlyPrice := .value 600000 }

/-- **An edit is lost.**  One edit pauses a unit, another reprices it; both have read the row before
either is written.  The second one written puts the unit back on sale. -/
theorem edits_lost :
    ¬ ∀ (srv : Server) (texts : Texts) (k : Kind) (id : ℕ) (d₀ : Rows) (rs : List AllReq) (l : FullLog)
      (b₁ b₂ : k.Input), d₀.1.Unbooked →
      LRun fullPostgres (fullProgram srv texts) always (Logged.quiet d₀) rs l →
      rs.filterMap (editOf k id) = [b₁, b₂] → DisjointFields b₁ b₂ →
      ∃ row₀ row, k.find id d₀ = some row₀ ∧ k.find id l.state.db = some row ∧
        BothKept b₁ b₂ row₀ row := by
  intro h
  have hplayed : (plays fullPostgres (fullProgram winterServer plainTexts) (fun _ _ => true) 2
      [starts 0 ⟨.unit, some 1, pausing⟩, starts 1 ⟨.unit, some 1, repricing⟩, runs 0, runs 1, runs 0,
        .commit 0, runs 1, .commit 1]
      (Logged.quiet coast) []).any (fun p =>
        decide (p.1.filterMap (editOf .unit 1) = [pausing, repricing]) &&
          decide ((Kind.find .unit 1 p.2.state.db).map UnitRecord.status = some (.known .active)))
      = true := by
    decide +kernel
  obtain ⟨rs, l, hrun, -, htest⟩ := LRun.of_plays always (fun _ _ _ _ _ => trivial) hplayed
  rw [Bool.and_eq_true, decide_eq_true_eq, decide_eq_true_eq] at htest
  obtain ⟨row₀, row, -, hrow, hkept⟩ := h winterServer plainTexts .unit 1 coast rs l pausing repricing
    coast_unbooked hrun htest.1 (by decide)
  have hpaused : row.status = .known .paused :=
    hkept.first (Column.plain UnitRecord.status UnitInput.status) (List.mem_of_getElem? (i := 23) rfl)
      (.known .paused) rfl
  have hactive := htest.2
  rw [hrow, Option.map_some, hpaused] at hactive
  cases hactive

end Sahel

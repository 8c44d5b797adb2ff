import Sahel.Safety.StayPlanner
import Sahel.Web.TimelineGrid

/-!
# The nights that are clicked are the nights that are blocked

From two clicks on the timeline to the block in the database, and back to its bar.

* `Picked` is what the grid remembers of the clicks, and `Reached.picked` that it always does;
* `ran_adminCreateBlock`: what a block that commits has run;
* **`blocked_as_clicked`**: the block has exactly the nights between the two last clicked days, nobody
  had any of them, and its bar covers exactly the columns of these days.
-/

set_option autoImplicit false

namespace Sahel

open KeyedTable HalfOpen ReadCommitted

/-! ### The clicks -/

namespace Web

/-- **Two days in either order** are the nights from the earlier one to the later one. -/
theorem selection_formatDate {a b : ℤ} (ha : FourDigit a) (hb : FourDigit b)
    (hnext : FourDigit (max a b + 1)) :
    selection (formatDate a) (formatDate b)
      = some ⟨formatDate (min a b), formatDate (max a b + 1), max a b + 1 - min a b⟩ := by
  have hfirst : (if formatDate a < formatDate b then formatDate a else formatDate b)
      = formatDate (min a b) := by
    simp only [formatDate_lt_iff ha hb]
    split_ifs with hlt
    · rw [min_eq_left hlt.le]
    · rw [min_eq_right (not_lt.mp hlt)]
  have hlast : (if formatDate a < formatDate b then formatDate b else formatDate a)
      = formatDate (max a b) := by
    simp only [formatDate_lt_iff ha hb]
    split_ifs with hlt
    · rw [max_eq_right hlt.le]
    · rw [max_eq_left (not_lt.mp hlt)]
  have hmin : FourDigit (min a b) := by
    rcases min_choice a b with h | h <;> rw [h] <;> assumption
  have hmax : FourDigit (max a b) := by
    rcases max_choice a b with h | h <;> rw [h] <;> assumption
  rw [selection, hfirst, hlast, addDays_formatDate hmax hnext]
  simp only [Option.bind_eq_bind, Option.bind_some, dateParse_formatDate hmin, dateParse_formatDate hnext,
    roundDays_sub]
  rfl

namespace TimelineGrid

/-- A day that can be clicked is a date whose next day has four digits too. -/
theorem hit_some {g : TimelineGrid} {unit col : ℕ} {day : String} (h : g.hit unit col = some day) :
    FourDigit (g.view.fromDate + col) ∧ FourDigit (g.view.fromDate + col + 1) ∧
      day = formatDate (g.view.fromDate + col) := by
  rw [hit] at h
  split_ifs at h with hbutton
  obtain ⟨hfrom, hto⟩ := g.view.fits
  have hcol := hbutton.2
  have hday : FourDigit (g.view.fromDate + col) := by
    constructor
    · have hlow := hfrom.1
      omega
    · have hhigh := hto.2
      omega
  have hnext : FourDigit (g.view.fromDate + col + 1) := by
    constructor
    · have hlow := hfrom.1
      omega
    · have hhigh := hto.2
      omega
  rw [addDays_formatDate hfrom hday, Option.filter_eq_some_iff] at h
  exact ⟨hday, hnext, (Option.some.inj h.1).symm⟩

/-- What the grid remembers of the days clicked: a half-made selection is the last one, and the
dialog's nights are those of the last two. -/
structure Picked (clicks : List (ℕ × ℤ)) (g : TimelineGrid) : Prop where
  start : ∀ unit day, g.start = some (unit, day) → ∃ a rest, clicks = (unit, a) :: rest ∧
    FourDigit a ∧ FourDigit (a + 1) ∧ day = formatDate a
  pending : ∀ p, g.pending = some p → ∃ a b rest, clicks = (p.unit, b) :: (p.unit, a) :: rest ∧
    FourDigit (min a b) ∧ FourDigit (max a b + 1) ∧
    p.selected = ⟨formatDate (min a b), formatDate (max a b + 1), max a b + 1 - min a b⟩

/-- A click, the first one or the second one. -/
theorem Picked.click {clicks : List (ℕ × ℤ)} {g : TimelineGrid} (h : Picked clicks g) {unit col : ℕ}
    {day : String} (bare : g.pending = none) (button : g.hit unit col = some day) :
    Picked ((unit, g.view.fromDate + col) :: clicks) (g.clickDay unit day) := by
  obtain ⟨hday, hnext, rfl⟩ := hit_some button
  have hfirst : Picked ((unit, g.view.fromDate + col) :: clicks)
      { g with start := some (unit, formatDate (g.view.fromDate + col)) } := by
    constructor
    · intro u d hd
      cases hd
      exact ⟨_, clicks, rfl, hday, hnext, rfl⟩
    · intro p hp
      rw [show g.pending = some p from hp] at bare
      cases bare
  rw [clickDay]
  cases hstart : g.start with
  | none => exact hfirst
  | some picked =>
    obtain ⟨u, first⟩ := picked
    by_cases hu : u = unit
    · subst hu
      obtain ⟨a, rest, rfl, ha, hanext, rfl⟩ := h.start u first hstart
      have hmax : FourDigit (max a (g.view.fromDate + col) + 1) := by
        rcases max_choice a (g.view.fromDate + col) with h | h <;> rw [h] <;> assumption
      have hmin : FourDigit (min a (g.view.fromDate + col)) := by
        rcases min_choice a (g.view.fromDate + col) with h | h <;> rw [h] <;> assumption
      constructor
      · intro v d hd
        simp at hd
      · intro p hp
        simp only [ne_eq, not_true_eq_false, if_false, selection_formatDate ha hday hmax,
          Option.map_some, Option.some.injEq] at hp
        subst hp
        exact ⟨a, _, rest, rfl, hmin, hmax, rfl⟩
    · simp only [ne_eq, hu, not_false_eq_true, if_true]
      exact hfirst

/-- **The grid remembers the clicks.** -/
theorem Reached.picked {v : GridView} {clicks : List (ℕ × ℤ)} {g : TimelineGrid}
    (h : Reached v clicks g) : Picked clicks g := by
  induction h with
  | idle =>
    constructor
    · intro unit day hstart
      cases hstart
    · intro p hp
      cases hp
  | shown h v' ih => exact ⟨ih.start, ih.pending⟩
  | click h unit col bare button ih => exact ih.click bare button
  | escape h ih =>
    constructor
    · intro unit day hstart
      cases hstart
    · exact ih.pending
  | close h ih =>
    constructor
    · exact ih.start
    · intro p hp
      cases hp

end TimelineGrid

end Web

/-! ### The block -/

/-- **What a block has run**: the unit's lock, the count, and the row it inserts. -/
theorem ran_adminCreateBlock {now : ℤ} {W : List Write} {es : List (Event Db Oracle Stmt)}
    {param : Option ℕ} {req : BlockRequest} {k : BlockRow}
    (h : Ran postgres now (adminCreateBlock param req) [] es k W) :
    param = some k.unitId ∧
      parseRange req.startDate req.endDate maxBlockNights = .ok (k.startDate, k.endDate) ∧
      W = [.insertBlock k] := by
  obtain ⟨es₁, es₂, id, W₁, -, hid, h₁⟩ := Ran.of_bind h
  obtain ⟨-, hparam, rfl⟩ := Ran.of_require hid
  obtain ⟨es₃, es₄, range, W₂, -, hcheck, h₂⟩ := Ran.of_bind h₁
  obtain ⟨-, hrange, rfl⟩ := Ran.of_check hcheck
  obtain ⟨es₅, es₆, x, W₃, -, hordered, h₃⟩ := Ran.of_bind h₂
  obtain ⟨-, -, rfl⟩ := Ran.of_refuse hordered
  obtain ⟨es₇, es₈, y, W₄, -, hnote, h₄⟩ := Ran.of_bind h₃
  obtain ⟨-, -, rfl⟩ := Ran.of_refuse hnote
  obtain ⟨es₉, es₁₀, z, W₅, -, hlock, h₅⟩ := Ran.of_bind h₄.of_mapErr
  obtain ⟨o₁, db₁, -, -, rfl⟩ := ran_read (fun he => by cases he; rfl) (ran_one hlock)
  obtain ⟨es₁₁, es₁₂, n, W₆, -, hcount, h₆⟩ := Ran.of_bind h₅
  obtain ⟨o₂, db₂, -, -, rfl⟩ := ran_read (fun he => by cases he; rfl) hcount
  obtain ⟨es₁₃, es₁₄, w, W₇, -, hrefuse, h₇⟩ := Ran.of_bind h₆
  obtain ⟨-, -, rfl⟩ := Ran.of_refuse hrefuse
  obtain ⟨o, db, adds, -, he, hadds⟩ := Ran.of_query h₇
  have hinsert : Queries.createBlock ⟨id, range.1, range.2, trimSpace req.note⟩ o.uuid
      (postgres.view db []) = .ok (k, adds) := he
  rw [Queries.createBlock] at hinsert
  split_ifs at hinsert
  cases hinsert
  exact ⟨hparam, hrange, hadds⟩

/-- **A block's commit** adds its row, on nights that nobody had. -/
theorem commit_closes {srv : Server} {texts : Texts} {ok : FullLog → ℕ → AllReq → Prop} {d₀ : Rows}
    {rs : List AllReq} {l l' : FullLog} {i : ℕ} {param : Option ℕ} {req : BlockRequest}
    (h : LRun fullPostgres (fullProgram srv texts) ok (Logged.quiet d₀) rs l)
    (hstep : LStep fullPostgres (fullProgram srv texts) l
      (some (i, .inl (.adminCreateBlock param req))) l') :
    ∃ now es W k us L, Ran postgres now (adminCreateBlock param req) [] es k W ∧
      l'.state.db.1.blocks = l.state.db.1.blocks.insert k ∧
      Closes L (l.state.db.1.putUnits us) k := by
  obtain ⟨now, es, a, W, us, L, -, -, hran, hview, -, hop⟩ := commit_request h hstep
  obtain ⟨k, -, hblock⟩ := Ran.of_map hran
  obtain ⟨-, -, hwrites⟩ := ran_adminCreateBlock hblock
  have hblocks : (postgres.view l.state.db.1 W).blocks = l.state.db.1.blocks.insert k := by
    rw [hwrites]
    rfl
  change Op _ L (l.state.db.1.putUnits us) ((postgres.view l.state.db.1 W).putUnits us) at hop
  generalize hreq' : Req.adminCreateBlock param req = r at hop
  generalize hto : (postgres.view l.state.db.1 W).putUnits us = db' at hop
  have hclosed : Closes L (l.state.db.1.putUnits us) k := by
    cases hop with
    | block k' hk' =>
      have hinsert : l.state.db.1.blocks.insert k' = l.state.db.1.blocks.insert k :=
        (congrArg Db.blocks hto.symm).trans hblocks
      obtain rfl : k = k' := Table.eq_of_insert_eq hk'.idFree hinsert.symm
      exact hk'
    | read hro => exact absurd hro (by rw [← hreq']; exact id)
    | book u x customers hr hbooks => exact absurd hr (by rw [← hreq']; exact id)
    | _ => cases hreq'
  refine ⟨now, _, W, k, us, L, hblock, ?_, hclosed⟩
  rw [hview, hblocks]

namespace Web

/-- In a window, the bar of the days from `first` to `last` covers their columns and no other. -/
theorem bar_of_days {first last : ℤ} (hfirst : FourDigit first) (hlast : FourDigit (last + 1))
    (hle : first ≤ last) (w : GridView) :
    ∃ bar, place (formatDate first) (formatDate (last + 1)) (formatDate w.fromDate) w.count = some bar ∧
      ∀ c, 0 ≤ c → c < w.count → ((∃ q ∈ bar, q.Covers c) ↔
        first ≤ w.fromDate + c ∧ w.fromDate + c ≤ last) := by
  refine ⟨_, place_formatDate hfirst hlast w.fits.1 w.fits.2 (by omega), ?_⟩
  intro c h0 hc
  split_ifs with hout
  · constructor
    · rintro ⟨q, hq, -⟩
      cases hq
    · intro hin
      omega
  · constructor
    · rintro ⟨q, hq, hcovers⟩
      cases hq
      have hin := (covers_placed h0 hc).mp hcovers
      omega
    · intro hin
      exact ⟨_, rfl, (covers_placed h0 hc).mpr (by omega)⟩

/-- **The nights that are clicked are blocked.**  In every state of the grid, the dialog's nights run
from the earlier to the later of the two days clicked last, on rows of one unit, and it says how many
they are.  In every run of the system, a block committed for them is a new row of that unit with
exactly these nights, none of which a booking or a block had; and in every window its bar covers
exactly the columns of these days. -/
theorem blocked_as_clicked (srv : Server) (texts : Texts) {v : GridView} {clicks : List (ℕ × ℤ)}
    {g : TimelineGrid} {p : Pending} (hg : TimelineGrid.Reached v clicks g) (hp : g.pending = some p) :
    ∃ a b rest, clicks = (p.unit, b) :: (p.unit, a) :: rest ∧
      p.selected.nights = max a b - min a b + 1 ∧
      ∀ {ok : FullLog → ℕ → AllReq → Prop} {d₀ : Rows} {rs : List AllReq} {l l' : FullLog} {i : ℕ}
        {note : String},
        LRun fullPostgres (fullProgram srv texts) ok (Logged.quiet d₀) rs l →
        LStep fullPostgres (fullProgram srv texts) l (some (i, .inl (.adminCreateBlock (some p.unit)
          ⟨p.selected.start, p.selected.stop, note⟩))) l' →
        ∃ k : BlockRow, l'.state.db.1.blocks = l.state.db.1.blocks.insert k ∧ k.unitId = p.unit ∧
          (∀ night, k.startDate ≤ night ∧ night < k.endDate ↔ min a b ≤ night ∧ night ≤ max a b) ∧
          (∀ night, min a b ≤ night → night ≤ max a b →
            (∀ x ∈ l.state.db.1.bookings, x.unitId = p.unit → x.Occupies →
              ¬ (x.checkIn ≤ night ∧ night < x.checkOut)) ∧
            ∀ x ∈ l.state.db.1.blocks, x.unitId = p.unit → ¬ (x.startDate ≤ night ∧ night < x.endDate)) ∧
          ∀ w : GridView, ∃ bar, place (formatDate k.startDate) (formatDate k.endDate)
              (formatDate w.fromDate) w.count = some bar ∧
            ∀ c, 0 ≤ c → c < w.count → ((∃ q ∈ bar, q.Covers c) ↔
              min a b ≤ w.fromDate + c ∧ w.fromDate + c ≤ max a b) := by
  obtain ⟨a, b, rest, hclicks, hmin, hmax, hselected⟩ := hg.picked.pending p hp
  refine ⟨a, b, rest, hclicks, by rw [hselected]; ring, ?_⟩
  intro ok d₀ rs l l' i note h hstep
  rw [hselected] at hstep
  have hle : min a b ≤ max a b := min_le_max
  obtain ⟨_, es, W, k, us, L, hran, hadds, hclosed⟩ := commit_closes h hstep
  obtain ⟨hunit, hrange, -⟩ := ran_adminCreateBlock hran
  obtain ⟨hstart, hstop⟩ := parseDate_of_parseRange hrange
  rw [parseDate_formatDate hmin] at hstart
  rw [parseDate_formatDate hmax] at hstop
  have hfirst : k.startDate = min a b := (Option.some.inj hstart).symm
  have hlast : k.endDate = max a b + 1 := (Option.some.inj hstop).symm
  have hk : k.unitId = p.unit := (Option.some.inj hunit).symm
  refine ⟨k, hadds, hk, fun night => by omega, fun night hlow hhigh => ⟨?_, ?_⟩, fun w => ?_⟩
  · intro x hx hxu hocc hin
    refine hclosed.stays x hx (hxu.trans hk.symm) hocc ?_
    exact ⟨by omega, by omega, by omega, by omega⟩
  · intro x hx hxu hin
    refine hclosed.blocks x hx (hxu.trans hk.symm) ?_
    exact ⟨by omega, by omega, by omega, by omega⟩
  · rw [hfirst, hlast]
    exact bar_of_days hmin hmax hle w

/-- Two weeks from new year, with one unit. -/
def newYearGrid : GridView where
  fromDate := newYear
  count := 14
  today := newYear
  units := [1]
  fits := by decide
  today_fits := by decide

/-- The twelfth is clicked, then the tenth. -/
theorem reached_twelfthTenth : TimelineGrid.Reached newYearGrid [(1, newYear + 9), (1, newYear + 11)]
    ⟨newYearGrid, none, some ⟨1, ⟨"2027-01-10", "2027-01-13", 3⟩⟩⟩ := by
  have hlast : (TimelineGrid.idle newYearGrid).hit 1 11 = some "2027-01-12" := by decide +kernel
  have htwelfth := TimelineGrid.Reached.idle.click 1 11 rfl hlast
  have hfirst : ((TimelineGrid.idle newYearGrid).clickDay 1 "2027-01-12").hit 1 9
      = some "2027-01-10" := by
    decide +kernel
  have htenth := htwelfth.click 1 9 rfl hfirst
  have hstate : ((TimelineGrid.idle newYearGrid).clickDay 1 "2027-01-12").clickDay 1 "2027-01-10"
      = ⟨newYearGrid, none, some ⟨1, ⟨"2027-01-10", "2027-01-13", 3⟩⟩⟩ := by
    have hselection : selection "2027-01-12" "2027-01-10" = some ⟨"2027-01-10", "2027-01-13", 3⟩ := by
      decide +kernel
    simp [TimelineGrid.idle, TimelineGrid.clickDay, hselection]
  rwa [hstate] at htenth

/-- The block that transaction `i` is about to commit. -/
def blocksFor (l : FullLog) (i : ℕ) : Option (Option ℕ × BlockRequest) :=
  match l.state.txs i with
  | some ⟨.inl (.adminCreateBlock unit req), _, .pure _, _, _, false⟩ => some (unit, req)
  | _ => none

theorem blocksFor_commit {srv : Server} {texts : Texts} {l : FullLog} {i : ℕ} {unit : Option ℕ}
    {req : BlockRequest} (h : blocksFor l i = some (unit, req)) : ∃ l',
      LStep fullPostgres (fullProgram srv texts) l (some (i, .inl (.adminCreateBlock unit req))) l' := by
  unfold blocksFor at h
  split at h
  · rename_i unit' req' now a W L hlive
    cases h
    exact ⟨_, .commit i hlive rfl rfl⟩
  · cases h

/-- The nights of the tenth to the twelfth, from their dialog. -/
def tenthBlock : BlockRequest := ⟨"2027-01-10", "2027-01-13", "Painters"⟩

/-- The transaction blocks these nights. -/
def blocksTenth (l : FullLog) : Bool :=
  (blocksFor l 0).any (fun p => p.1 == some 1 && p.2.startDate == "2027-01-10" &&
    p.2.endDate == "2027-01-13")

/-- Three nights are clicked and blocked. -/
theorem blocked_as_clicked_tenth : ∃ (l l' : FullLog) (k : BlockRow),
    l'.state.db.1.blocks = l.state.db.1.blocks.insert k ∧ k.unitId = 1 ∧
      ∀ night, k.startDate ≤ night ∧ night < k.endDate ↔ newYear + 9 ≤ night ∧ night ≤ newYear + 11 := by
  have hplayed : (plays fullPostgres (fullProgram winterServer plainTexts) (fun _ _ => true) 1
      (.start 0 (.inl (.adminCreateBlock (some 1) tenthBlock)) (noonOf newYear) ::
        List.replicate 3 (.exec 0 (oracleAt 1 (noonOf newYear)))) (Logged.quiet coast) []).any
      (fun p => blocksTenth p.2) = true := by
    decide +kernel
  obtain ⟨rs, l, hrun, -, htest⟩ := LRun.of_plays always (fun _ _ _ _ _ => trivial) hplayed
  cases hfor : blocksFor l 0 with
  | none =>
    rw [blocksTenth, hfor] at htest
    cases htest
  | some p =>
    obtain ⟨unit, start, stop, note⟩ := p
    simp only [blocksTenth, hfor, Option.any_some, Bool.and_eq_true, beq_iff_eq] at htest
    obtain ⟨⟨rfl, rfl⟩, rfl⟩ := htest
    obtain ⟨l', hstep⟩ := blocksFor_commit hfor
    obtain ⟨a, b, rest, hclicks, -, hblocked⟩ :=
      blocked_as_clicked winterServer plainTexts reached_twelfthTenth rfl
    obtain ⟨k, hadds, hunit, hnights, -, -⟩ := hblocked hrun hstep
    cases hclicks
    exact ⟨l, l', k, hadds, hunit, hnights⟩

end Web

end Sahel

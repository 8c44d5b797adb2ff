import Sahel.Safety.Availability
import Sahel.Safety.Terms
import Sahel.Safety.Timeline
import Sahel.Web.StayPlanner

/-!
# What the booking dialog shows is what is booked

The planner drops a price as soon as the stay or the guests change, but a price asked for earlier
still arrives and is shown with whatever stay is there by then.  `Current` is what survives: a
complete stay is the one the newest price was asked for.

* `Reached.current`: every event and every answer keeps it;
* `ran_postQuote`: what a quote that succeeds has run;
* **`dialog_books_what_it_shows`**: with no price under way, the open dialog shows the API's price of
  exactly its stay, in doubles, and a booking made from it is of that stay, at that price unless the
  unit's has changed by then or an amount was too large to be shown exactly.
-/

set_option autoImplicit false

namespace Sahel

open KeyedTable HalfOpen ReadCommitted

/-! ### The newest price -/

namespace Web

namespace StayPlanner

/-- A complete stay is waiting for its price behind all the others, or nothing waits and its price
is there. -/
def Current (answers : Ask → QuoteResult → Prop) (s : StayPlanner) : Prop :=
  ∀ a, asked s.range s.guests = some a →
    s.waiting.getLast? = some a ∨ (s.waiting = [] ∧ ∃ r, s.quote = some r ∧ answers a r)

variable {answers : Ask → QuoteResult → Prop} {initial : List CalendarDay} {maxGuests : ℤ}
variable {s : StayPlanner}

/-- Asking anew makes it so, whatever was waiting. -/
theorem current_requote (s : StayPlanner) : s.requote.Current answers := by
  intro a ha
  have hasked : asked s.range s.guests = some a := ha
  refine Or.inl ?_
  show (s.waiting ++ (asked s.range s.guests).toList).getLast? = some a
  rw [hasked]
  simp

/-- An event that changes neither the stay nor what was asked for. -/
theorem Current.frame (h : s.Current answers) {s' : StayPlanner} (hrange : s'.range = s.range)
    (hguests : s'.guests = s.guests) (hwaiting : s'.waiting = s.waiting) (hquote : s'.quote = s.quote) :
    s'.Current answers := by
  intro a ha
  rw [hrange, hguests] at ha
  rw [hwaiting, hquote]
  exact h a ha

theorem Current.step (h : s.Current answers) (e : Event) : (s.step maxGuests e).Current answers := by
  cases e with
  | choose date =>
    simp only [StayPlanner.step]
    split_ifs
    · exact current_requote _
    · exact h
  | fewer =>
    simp only [StayPlanner.step]
    split_ifs
    · exact h
    · exact current_requote _
  | more =>
    simp only [StayPlanner.step]
    split_ifs
    · exact h
    · exact current_requote _
  | clear =>
    simp only [StayPlanner.step]
    split_ifs
    · intro a ha
      cases ha
    · exact h
  | loaded days => exact h.frame rfl rfl rfl rfl
  | book =>
    simp only [StayPlanner.step]
    split_ifs
    · exact h.frame rfl rfl rfl rfl
    · exact h
  | close => exact h.frame rfl rfl rfl rfl

/-- The answer to the newest ask is the price of the stay; the others leave it waiting. -/
theorem Current.answered (h : s.Current answers) {a : Ask} {rest : List Ask} {r : QuoteResult}
    (oldest : s.waiting = a :: rest) (answer : answers a r) : (s.answered rest r).Current answers := by
  intro b hb
  have hwaits : (a :: rest).getLast? = some b := by
    rcases h b hb with hlast | ⟨hnone, -⟩
    · rwa [oldest] at hlast
    · rw [oldest] at hnone
      cases hnone
  cases rest with
  | nil =>
    obtain rfl : a = b := by simpa using hwaits
    exact Or.inr ⟨rfl, r, rfl, answer⟩
  | cons a' rest =>
    refine Or.inl ?_
    show (a' :: rest).getLast? = some b
    rwa [List.getLast?_cons_cons] at hwaits

theorem Reached.current (h : Reached answers initial maxGuests s) : s.Current answers := by
  induction h with
  | start =>
    intro a ha
    cases ha
  | step h e ih => exact ih.step e
  | answered h oldest answer ih => exact ih.answered oldest answer

theorem quoting_eq_false : s.quoting = false ↔ s.waiting = [] := by
  simp [quoting]

/-- **With no price under way, the dialog's price is an answer for the dialog's stay.** -/
theorem Reached.dialog (h : Reached answers initial maxGuests s) {slug title : String} {d : StaySummary}
    (hd : s.dialog slug title = some d) (hidle : s.quoting = false) : ∃ b,
      answers ⟨d.checkIn, d.checkOut, d.guests⟩ (.ok b) ∧ d.slug = slug ∧
      d.nights = nightsBetween d.checkIn d.checkOut ∧
      d.nightlyPrice = b.nightlyPrice ∧ d.total = b.total ∧ d.deposit = b.depositDue := by
  rw [StayPlanner.dialog] at hd
  split at hd
  · rw [StayPlanner.stay] at hd
    split at hd
    · rename_i b a hq hasked
      obtain rfl := Option.some.inj hd
      obtain ⟨r, hquote, hanswer⟩ : ∃ r, s.quote = some r ∧ answers a r := by
        rcases h.current a hasked with hlast | ⟨-, hquote⟩
        · rw [quoting_eq_false.mp hidle] at hlast
          cases hlast
        · exact hquote
      have hr : r = .ok b := by
        rw [q, hquote] at hq
        cases r with
        | ok b' => exact congrArg QuoteResult.ok (Option.some.inj hq)
        | refused code => cases hq
      exact ⟨b, hr ▸ hanswer, rfl, rfl, rfl, rfl, rfl⟩
    · cases hd
  · cases hd

end StayPlanner

end Web

/-! ### What a quote has run -/

theorem ran_postQuote {srv : Server} {now : ℤ} {W W' : List Write} {es : List (Event Db Oracle Stmt)}
    {slug : String} {req : QuoteRequest} {b : Pricing.Breakdown}
    (h : Ran postgres now (postQuote srv slug req) W es b W') :
    ∃ f t u clock, parseRange req.checkIn req.checkOut maxAvailabilitySpan = .ok (f, t) ∧
      Pricing.Accepted srv.cairo (pricingUnit u) ⟨f, t, req.guests⟩ clock b := by
  obtain ⟨es₁, es₂, range, W₁, -, hcheck, h₁⟩ := Ran.of_bind h
  obtain ⟨-, hrange, -⟩ := Ran.of_check hcheck
  obtain ⟨es₃, es₄, u, W₂, -, -, h₂⟩ := Ran.of_bind h₁
  obtain ⟨o₁, db₁, o₂, db₂, -, hacc, -⟩ := ran_quoteStay h₂.of_mapErr
  exact ⟨range.1, range.2, u, o₁.clock, hrange, hacc⟩

theorem parseDate_of_parseRange {s t : String} {m f u : ℤ} (h : parseRange s t m = .ok (f, u)) :
    parseDate s = some f ∧ parseDate t = some u := by
  unfold parseRange at h
  split at h
  · cases h
  · cases h
  · rename_i f' u' hf hu
    split_ifs at h
    cases h
    exact ⟨hf, hu⟩

theorem nightsBetween_of_parseRange {s t : String} {f u : ℤ}
    (h : parseRange s t maxAvailabilitySpan = .ok (f, u)) :
    Web.nightsBetween s t = some (daysBetween f u) := by
  obtain ⟨hs, ht⟩ := parseDate_of_parseRange h
  obtain ⟨hle, hspan⟩ := parseRange_ok h
  have hround := Web.roundDays_sub u f
  rw [Web.nightsBetween, Web.dateParse, Web.dateParse, hs, ht, daysBetween_eq_of_le hle hspan (by decide)]
  show some (Web.roundDays (u * Web.dayMs - f * Web.dayMs)) = some (u - f)
  rw [hround]

/-! ### The booking -/

namespace Web

/-- A booking of the stay the dialog shows. -/
structure SameStay (d : StaySummary) (x : BookingRow) : Prop where
  checkIn : parseDate d.checkIn = some x.checkIn
  checkOut : parseDate d.checkOut = some x.checkOut
  nights : d.nights = some (daysBetween x.checkIn x.checkOut)
  guests : x.guests.toInt = d.guests

/-- A booking at the price the dialog shows. -/
structure SamePrice (d : StaySummary) (x : BookingRow) : Prop where
  nightly : x.nightlyPrice.toInt = d.nightlyPrice
  total : x.total.toInt = d.total
  deposit : x.depositDue.toInt = d.deposit

/-- The amounts of a dialog are exact: doubles tell integers below `2 ^ 53` apart. -/
structure Exact (d : StaySummary) : Prop where
  nightly : d.nightlyPrice.natAbs < 2 ^ 53
  total : d.total.natAbs < 2 ^ 53

theorem bookStay_some {d : StaySummary} {req : BookingRequest} (h : bookStay d = some req) :
    req = ⟨d.slug, d.checkIn, d.checkOut, d.guests⟩ := by
  rw [bookStay] at h
  split at h
  · exact (Option.some.inj h).symm
  · cases h

end Web

/-- An amount shown below `2 ^ 53` is the API's own. -/
theorem Web.Exact.shown {d : Web.StaySummary} {price total deposit : Int64} (h : Web.Exact d)
    (hdue : deposit = price) (hprice : d.nightlyPrice = Binary64.roundInt price.toInt)
    (htotal : d.total = Binary64.roundInt total.toInt)
    (hdeposit : d.deposit = Binary64.roundInt deposit.toInt) :
    d.nightlyPrice = price.toInt ∧ d.total = total.toInt ∧ d.deposit = deposit.toInt := by
  have hp : d.nightlyPrice = price.toInt := by
    have hsmall := h.nightly
    rw [hprice] at hsmall ⊢
    exact Binary64.roundInt_exact hsmall
  have ht : d.total = total.toInt := by
    have hsmall := h.total
    rw [htotal] at hsmall ⊢
    exact Binary64.roundInt_exact hsmall
  -- the deposit is the price of a night
  refine ⟨hp, ht, ?_⟩
  rw [hdeposit, hdue, ← hprice]
  exact hp

/-- **The dialog books what it shows.**  In every state of the planner in which the dialog is open and
no price is under way, its price is one the API gave for exactly its stay, each amount as the nearest
double, which is the amount itself while what is shown stays below `2 ^ 53`.  Then, in every run of the
system, a booking committed for its request is of that stay, for as many nights and guests, and at
that price, total and deposit exactly when the unit has that price as the booking reads it. -/
theorem dialog_books_what_it_shows (srv : Server) (texts : Texts) {initial : List CalendarDay}
    {maxGuests : ℤ} {slug title : String} {s : Web.StayPlanner} {d : Web.StaySummary}
    (hs : Web.StayPlanner.Reached (Web.Quoted srv slug) initial maxGuests s)
    (hd : s.dialog slug title = some d) (hidle : s.quoting = false) :
    (∃ now es b W, Ran postgres now (postQuote srv slug ⟨d.checkIn, d.checkOut, d.guests⟩) [] es b W ∧
      d.nights = some b.nightCount ∧ d.nightlyPrice = Binary64.roundInt b.nightlyPrice.toInt ∧
      d.total = Binary64.roundInt b.total.toInt ∧ d.deposit = Binary64.roundInt b.depositDue.toInt ∧
      (Web.Exact d → d.nightlyPrice = b.nightlyPrice.toInt ∧ d.total = b.total.toInt ∧
        d.deposit = b.depositDue.toInt)) ∧
    ∀ {ok : FullLog → ℕ → AllReq → Prop} {d₀ : Rows} {rs : List AllReq} {l l' : FullLog}
      {i guestId : ℕ} {req : BookingRequest},
      LRun fullPostgres (fullProgram srv texts) ok (Logged.quiet d₀) rs l →
      Web.bookStay d = some req →
      LStep fullPostgres (fullProgram srv texts) l
        (some (i, .inl (.createBooking guestId req))) l' →
      ∃ u x, unitsRead (l.log i) = [u] ∧ u.slug = slug ∧ x.unitId = u.id ∧
        l'.state.db.1.bookings = l.state.db.1.bookings.insert x ∧ Web.SameStay d x ∧
        (Web.Exact d →
          (Web.SamePrice d x ↔ u.nightlyPrice.map Int64.toInt = some d.nightlyPrice)) := by
  obtain ⟨q, hquoted, rfl, hnights, hprice, htotal, hdeposit⟩ := hs.dialog hd hidle
  cases hquoted with
  | @priced now es b W dates ran =>
    obtain ⟨f, t, u₀, clock, hrange, hacc⟩ := ran_postQuote ran
    have hcount := nightsBetween_of_parseRange hrange
    have hdue : b.depositDue = b.nightlyPrice := by
      rw [hacc.breakdown]
    have hshown := fun hexact : Web.Exact d => hexact.shown hdue hprice htotal hdeposit
    refine ⟨⟨now, es, b, W, ran, ?_, hprice, htotal, hdeposit, hshown⟩, ?_⟩
    · rw [hnights, hcount, hacc.breakdown]
    · intro ok d₀ rs l l' i guestId req h hreq hstep
      obtain rfl := Web.bookStay_some hreq
      obtain ⟨now', es', a, W', us, L, u, x, read, lock, clock', hc, hb⟩ := commit_web h hstep
      obtain ⟨b', hacc', hprice'⟩ := hb.accepted
      obtain ⟨hin, hout⟩ : f = x.checkIn ∧ t = x.checkOut :=
        Prod.mk.inj (Except.ok.inj (hrange.symm.trans hb.range))
      subst hin hout
      have hslug : u.slug = d.slug := (Queries.getPricingUnit_some hb.readUnit).2.1 _ rfl
      have hguests : x.guests.toInt = d.guests := by
        rw [hb.guests]
        exact guests_of_accepted hacc'
      obtain ⟨hparseIn, hparseOut⟩ := parseDate_of_parseRange hrange
      refine ⟨u, x, hc.reads hb, hslug, hb.unit, hc.adds,
        ⟨hparseIn, hparseOut, hnights.trans hcount, hguests⟩, ?_⟩
      -- Total and deposit follow from the nightly price, in the quote and in the booking.
      intro hexact
      obtain ⟨hp, ht, hdep⟩ := hshown hexact
      have hsold : u.nightlyPrice = some x.nightlyPrice := by
        rw [hprice']
        exact price_of_accepted hacc'
      have hquoteTotal : b.total = b.nightlyPrice * Int64.ofInt (daysBetween x.checkIn x.checkOut) := by
        rw [hacc.breakdown]
      rw [hsold, Option.map_some, Option.some.injEq]
      constructor
      · intro hsame
        exact hsame.nightly
      · intro hunit
        have hnightly : x.nightlyPrice = b.nightlyPrice := Int64.toInt_inj.mp (hunit.trans hp)
        refine ⟨hunit, ?_, ?_⟩
        · rw [hb.total, hnightly, ht, hquoteTotal]
        · rw [hb.deposit, hnightly, hdep, hdue]

/-! ### A run -/

/-- What reads only is run. -/
theorem ran_of_reads {o : Oracle} {now : ℤ} {db : Db} {ε α : Type} {p : Prog Stmt Stmt.Val PgError ε α}
    {a : α} (h : Reads postgres o now db p a) : ∃ es, Ran postgres now p [] es a [] := by
  induction h with
  | pure a => exact ⟨[], .done a []⟩
  | @exec st k v a he hk ih =>
    obtain ⟨es, hran⟩ := ih
    exact ⟨⟨st, o, db⟩ :: es, .exec he hran⟩

/-- The tenth is free, the twelfth has a guest coming. -/
def tenthFree : List CalendarDay :=
  [⟨"2027-01-10", some 500000, "free"⟩, ⟨"2027-01-12", none, "blocked"⟩]

/-- Two nights from the tenth, and their price. -/
def tenthBreakdown : Pricing.Breakdown := ⟨500000, 2, 1000000, 500000⟩

def tenthQuote : Web.QuoteBreakdown := ⟨500000, 2, 1000000, 500000⟩

theorem quoted_tenth : Web.Quoted winterServer "sea-view" ⟨"2027-01-10", "2027-01-12", 2⟩
    (.ok tenthQuote) := by
  have hparse : tenthQuote = .parse tenthBreakdown := by decide +kernel
  have hunit : Reads postgres (oracleAt 1 (noonOf newYear)) 0 turnoverWorld
      (pricingUnitBySlug "sea-view") (seaUnit 1 (by decide)) :=
    pricingUnitBySlug_reads _ 0 (by decide +kernel)
  have hquote : Reads postgres (oracleAt 1 (noonOf newYear)) 0 turnoverWorld
      (quoteStay winterServer (seaUnit 1 (by decide)) ⟨newYear + 9, newYear + 11, 2⟩) tenthBreakdown := by
    refine (Reads.query rfl).bind ?_
    have hprice : Pricing.quote winterServer.cairo (pricingUnit (seaUnit 1 (by decide)))
        ⟨newYear + 9, newYear + 11, 2⟩ (oracleAt 1 (noonOf newYear)).clock = .ok tenthBreakdown := by
      decide +kernel
    rw [hprice]
    exact (Reads.query rfl).bind (.pure _)
  have hrange : parseRange "2027-01-10" "2027-01-12" maxAvailabilitySpan
      = .ok (newYear + 9, newYear + 11) := by
    decide +kernel
  have hpost : Reads postgres (oracleAt 1 (noonOf newYear)) 0 turnoverWorld
      (postQuote winterServer "sea-view" ⟨"2027-01-10", "2027-01-12", 2⟩) tenthBreakdown := by
    rw [postQuote, hrange]
    exact hunit.bind (hquote.mapErr _)
  obtain ⟨es, hran⟩ := ran_of_reads hpost
  rw [hparse]
  exact .priced (by decide +kernel) hran

/-- The request that transaction `i` is about to commit a booking for. -/
def booksFor (l : FullLog) (i : ℕ) : Option (ℕ × BookingRequest) :=
  match l.state.txs i with
  | some ⟨.inl (.createBooking guestId req), _, .pure _, _, _, false⟩ => some (guestId, req)
  | _ => none

theorem booksFor_commit {srv : Server} {texts : Texts} {l : FullLog} {i guestId : ℕ}
    {req : BookingRequest} (h : booksFor l i = some (guestId, req)) : ∃ l',
      LStep fullPostgres (fullProgram srv texts) l (some (i, .inl (.createBooking guestId req))) l' := by
  unfold booksFor at h
  split at h
  · rename_i guestId' req' now a W L hlive
    cases h
    exact ⟨_, .commit i hlive rfl rfl⟩
  · cases h

/-- The planner with the tenth to the twelfth chosen, priced, and the dialog open. -/
def tenthOpen : Web.StayPlanner where
  days := tenthFree
  range := ⟨some "2027-01-10", some "2027-01-12"⟩
  guests := 2
  quote := some (.ok tenthQuote)
  waiting := []
  booking := true

theorem reached_tenthOpen : Web.StayPlanner.Reached (Web.Quoted winterServer "sea-view") tenthFree 4
    tenthOpen := by
  have hchosen : Web.StayPlanner.Reached (Web.Quoted winterServer "sea-view") tenthFree 4
      ⟨tenthFree, ⟨some "2027-01-10", some "2027-01-12"⟩, 2, none, [⟨"2027-01-10", "2027-01-12", 2⟩],
        false⟩ := by
    have hstart : Web.StayPlanner.Reached (Web.Quoted winterServer "sea-view") tenthFree 4
        (Web.StayPlanner.start tenthFree 4) := .start
    have hpicked := (hstart.step (.choose "2027-01-10")).step (.choose "2027-01-12")
    have hstate : ((Web.StayPlanner.start tenthFree 4).step 4 (.choose "2027-01-10")).step 4
        (.choose "2027-01-12") = ⟨tenthFree, ⟨some "2027-01-10", some "2027-01-12"⟩, 2, none,
          [⟨"2027-01-10", "2027-01-12", 2⟩], false⟩ := by
      decide +kernel
    rwa [hstate] at hpicked
  exact (hchosen.answered rfl quoted_tenth).step .book

/-- The summary the dialog shows then. -/
def tenthSummary : Web.StaySummary where
  slug := "sea-view"
  title := "Sea chalet"
  checkIn := "2027-01-10"
  checkOut := "2027-01-12"
  nights := some 2
  guests := 2
  nightlyPrice := 500000
  total := 1000000
  deposit := 500000

/-- The transaction books the stay of the summary. -/
def booksTenth (l : FullLog) : Bool :=
  (booksFor l 0).any (fun p => p.2.unitSlug == "sea-view" && p.2.checkIn == "2027-01-10" &&
    p.2.checkOut == "2027-01-12" && p.2.guests == 2)

/-- Two nights are priced, confirmed and booked. -/
theorem dialog_books_what_it_shows_tenth : ∃ (l l' : FullLog) (u : UnitRow) (x : BookingRow),
    tenthOpen.dialog "sea-view" "Sea chalet" = some tenthSummary ∧ unitsRead (l.log 0) = [u] ∧
      l'.state.db.1.bookings = l.state.db.1.bookings.insert x ∧ Web.SameStay tenthSummary x ∧
      (Web.SamePrice tenthSummary x ↔ u.nightlyPrice.map Int64.toInt = some 500000) := by
  have hdialog : tenthOpen.dialog "sea-view" "Sea chalet" = some tenthSummary := by
    decide +kernel
  have hdates : Web.isDateText "2027-01-10" ∧ Web.isDateText "2027-01-12" := by decide +kernel
  have hplayed : (plays fullPostgres (fullProgram winterServer plainTexts) (fun _ _ => true) 2
      (bookingReads 0 ++ bookingInserts 0) (Logged.quiet coast) []).any (fun p => booksTenth p.2)
        = true := by
    decide +kernel
  obtain ⟨rs, l, hrun, -, htest⟩ := LRun.of_plays always (fun _ _ _ _ _ => trivial) hplayed
  cases hfor : booksFor l 0 with
  | none =>
    rw [booksTenth, hfor] at htest
    cases htest
  | some p =>
    obtain ⟨guestId, unitSlug, checkIn, checkOut, guests⟩ := p
    simp only [booksTenth, hfor, Option.any_some, Bool.and_eq_true, beq_iff_eq] at htest
    obtain ⟨⟨⟨rfl, rfl⟩, rfl⟩, rfl⟩ := htest
    obtain ⟨l', hstep⟩ := booksFor_commit hfor
    obtain ⟨-, hbooked⟩ :=
      dialog_books_what_it_shows winterServer plainTexts reached_tenthOpen hdialog rfl
    obtain ⟨u, x, hread, -, -, hadds, hstay, hprice⟩ := hbooked hrun (if_pos hdates) hstep
    have hexact : Web.Exact tenthSummary := ⟨by decide, by decide⟩
    exact ⟨l, l', u, x, hdialog, hread, hadds, hstay, hprice hexact⟩

/-- While a price is under way the dialog can be wrong.  It was asked for with no stay on the page, so
it opens by itself once one is there: with the price of the tenth to the twelfth, for three nights. -/
example :
    let choose (s : Web.StayPlanner) (date : String) := s.step 4 (.choose date)
    let tenth := choose (choose (Web.StayPlanner.start tenthFree 4) "2027-01-10") "2027-01-12"
    let cleared := ((tenth.step 4 .clear).answered [] (.ok tenthQuote)).step 4 .book
    let again := choose (choose (choose (choose cleared "2027-01-10") "2027-01-12") "2027-01-10") "2027-01-13"
    again.waiting = [⟨"2027-01-10", "2027-01-12", 2⟩, ⟨"2027-01-10", "2027-01-13", 2⟩] ∧
      ((again.answered again.waiting.tail (.ok tenthQuote)).dialog "sea-view" "Sea chalet").map
        (fun d => (d.checkOut, d.nights, d.total)) = some ("2027-01-13", some 3, 1000000) := by
  decide +kernel

end Sahel

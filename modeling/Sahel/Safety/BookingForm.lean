import Sahel.Web.BookingForm
import Sahel.Safety.Picker

/-!
# The stay the manual booking form holds

`canPick`, `rangeSelect` and the pruning after a load each look at one side of the selection; that
it never lies across closed nights is their joint invariant `Fits`.

* `Fits.click`, `Fits.prune`: what a press of an enabled day and a load do to it;
* `prune_clears`, `prune_keeps`, `prune_drops`: the three ways a load can go;
* `step_fits`: every event keeps it;
* **`selection_open`**: after any events, the selection is in order and all its nights are free in
  the list the form holds.
-/

set_option autoImplicit false

namespace Sahel

open HalfOpen

namespace Web

/-- The selection lies on free nights: nothing is chosen, or a free check-in, or a stay in order
with every night free. -/
inductive Fits (taken : List TakenRange) : Range → Prop
  | clear : Fits taken ⟨none, none⟩
  | checkIn {ci : String} (set : ci ≠ "") (free : isTaken ci taken = false) :
      Fits taken ⟨some ci, none⟩
  | stay {ci co : String} (set : ci ≠ "") (ordered : ci < co)
      (free : ∀ night, ci ≤ night → night < co → isTaken night taken = false) :
      Fits taken ⟨some ci, some co⟩

theorem ne_blank_of_lt {a b : String} (h : a < b) : b ≠ "" := by
  intro hb
  rw [hb] at h
  exact List.not_lt_nil _ (String.lt_iff.mp h)

/-- With a free check-in, the nights up to any day the next taken night allows are free. -/
theorem nights_free {ci co : String} (hci : ci ≠ "") (hs : ci < co) {taken : List TakenRange}
    (hr : ∀ r ∈ taken, r.start < r.stop) (hfree : isTaken ci taken = false)
    (hlimit : upTo (nextTaken ci taken) co = true) (night : String) (hin : ci ≤ night)
    (hout : night < co) : isTaken night taken = false := by
  have hpick : canPick co (some ci) none taken = true := by
    simpa [canPick, truthy, hci, not_le.mpr hs] using hlimit
  have hno := (picks_iff hci hs hr).mp ⟨hfree, hpick⟩
  rw [isTaken, List.any_eq_false]
  intro r hrt htaken
  have hover := of_decide_eq_true htaken
  exact hno r hrt ⟨hr r hrt, hs, hover.1.trans_lt hout, hin.trans_lt hover.2⟩

/-- **A press of an enabled day.** -/
theorem Fits.click {taken : List TakenRange} (hr : ∀ r ∈ taken, r.start < r.stop) {range : Range}
    (h : Fits taken range) {day : String} (hday : day ≠ "")
    (hpick : canPick day range.checkIn range.checkOut taken = true) :
    Fits taken (rangeSelect range day) := by
  cases h with
  | clear => exact .checkIn hday (by simpa [canPick] using hpick)
  | @checkIn ci set free =>
    have hsel : rangeSelect ⟨some ci, none⟩ day
        = if day = ci then ⟨none, none⟩ else if ci < day then ⟨some ci, some day⟩
          else ⟨some day, none⟩ := by
      simp [rangeSelect, truthy, set]
    rw [hsel]
    split_ifs with hsame hlater
    · exact .clear
    · have hlimit : upTo (nextTaken ci taken) day = true := by
        simpa [canPick, truthy, set, not_le.mpr hlater] using hpick
      exact .stay set hlater (nights_free set hlater hr free hlimit)
    · have hback : isTaken day taken = false := by
        simpa [canPick, truthy, set, not_lt.mp hlater] using hpick
      exact .checkIn hday hback
  | @stay ci co set ordered free =>
    have hco : co ≠ "" := ne_blank_of_lt ordered
    have hsel : rangeSelect ⟨some ci, some co⟩ day = ⟨some day, none⟩ := by
      simp [rangeSelect, truthy, hco]
    rw [hsel]
    exact .checkIn hday (by simpa [canPick, truthy, hco] using hpick)

/-! ### A load -/

theorem prune_clears {today ci : String} {taken : List TakenRange} (set : ci ≠ "")
    (hgone : ci < today ∨ canPick ci none none taken = false) (checkOut : Option String) :
    prune today taken ⟨some ci, checkOut⟩ = ⟨none, none⟩ := by
  simp only [prune, if_neg set, if_pos hgone]

/-- A check-out stays when the next taken night allows it. -/
theorem prune_keeps {today ci co : String} {taken : List TakenRange} (set : ci ≠ "")
    (hstays : ¬ (ci < today ∨ canPick ci none none taken = false))
    (hlimit : upTo (nextTaken ci taken) co = true) :
    prune today taken ⟨some ci, some co⟩ = ⟨some ci, some co⟩ := by
  simp only [prune, if_neg set, if_neg hstays]
  cases hnext : nextTaken ci taken with
  | none => rfl
  | some limit =>
    rw [hnext] at hlimit
    refine if_neg ?_
    rintro ⟨-, hne, hlt⟩
    exact absurd ((upTo_some hne).mp hlimit) (not_le.mpr hlt)

/-- A check-out past the next taken night goes, and the check-in stays. -/
theorem prune_drops {today ci co : String} {taken : List TakenRange} (set : ci ≠ "")
    (hstays : ¬ (ci < today ∨ canPick ci none none taken = false)) (hco : co ≠ "")
    (hlimit : ¬ upTo (nextTaken ci taken) co = true) :
    prune today taken ⟨some ci, some co⟩ = ⟨some ci, none⟩ := by
  simp only [prune, if_neg set, if_neg hstays]
  cases hnext : nextTaken ci taken with
  | none =>
    rw [hnext] at hlimit
    exact absurd rfl hlimit
  | some limit =>
    rw [hnext] at hlimit
    have hne : limit ≠ "" := by
      intro hblank
      rw [hblank] at hlimit
      exact hlimit rfl
    rw [upTo_some hne, not_le] at hlimit
    exact if_pos ⟨hco, hne, hlimit⟩

/-- A check-in that stays is free in the new list. -/
theorem free_of_stays {today ci : String} {taken : List TakenRange}
    (hstays : ¬ (ci < today ∨ canPick ci none none taken = false)) :
    isTaken ci taken = false := by
  rw [not_or, Bool.not_eq_false] at hstays
  simpa [canPick] using hstays.2

/-- **A load.**  Whatever list the selection lay open in before, it lies open in the new one. -/
theorem Fits.prune {before taken : List TakenRange} (hr : ∀ r ∈ taken, r.start < r.stop)
    {range : Range} (h : Fits before range) (today : String) :
    Fits taken (prune today taken range) := by
  cases h with
  | clear => exact .clear
  | @checkIn ci set free =>
    by_cases hgone : ci < today ∨ canPick ci none none taken = false
    · rw [prune_clears set hgone]
      exact .clear
    · have hkept : Web.prune today taken ⟨some ci, none⟩ = ⟨some ci, none⟩ := by
        simp only [Web.prune, if_neg set, if_neg hgone]
      rw [hkept]
      exact .checkIn set (free_of_stays hgone)
  | @stay ci co set ordered free =>
    by_cases hgone : ci < today ∨ canPick ci none none taken = false
    · rw [prune_clears set hgone]
      exact .clear
    · have hfree := free_of_stays hgone
      by_cases hlimit : upTo (nextTaken ci taken) co = true
      · rw [prune_keeps set hgone hlimit]
        exact .stay set ordered (nights_free set ordered hr hfree hlimit)
      · rw [prune_drops set hgone (ne_blank_of_lt ordered) hlimit]
        exact .checkIn set hfree

/-! ### Every event -/

/-- Without closed nights, every selection in order lies open. -/
theorem Fits.unloaded {taken : List TakenRange} {range : Range} (h : Fits taken range) :
    Fits [] range := by
  cases h with
  | clear => exact .clear
  | checkIn set free => exact .checkIn set rfl
  | stay set ordered free => exact .stay set ordered (fun _ _ _ => rfl)

/-- **Every event keeps the selection open.** -/
theorem step_fits (today : String) {s : BookingForm} (h : Fits s.taken.ranges s.range)
    (event : FormEvent) :
    Fits (s.step today event).taken.ranges (s.step today event).range := by
  cases event with
  | click day =>
    show Fits (if _ then _ else s).taken.ranges (if _ then _ else s).range
    by_cases hon : enabled day s = true
    · rw [if_pos hon]
      rw [enabled, Bool.and_eq_true, bne_iff_ne] at hon
      exact h.click s.taken.nonempty hon.1 hon.2
    · rw [if_neg hon]
      exact h
  | loaded taken => exact h.prune taken.nonempty today
  | unloaded => exact h.unloaded

theorem run_fits (today : String) (events : List FormEvent) :
    Fits (BookingForm.run today events).taken.ranges (BookingForm.run today events).range := by
  have hloop : ∀ (events : List FormEvent) (s : BookingForm), Fits s.taken.ranges s.range →
      Fits (events.foldl (BookingForm.step today) s).taken.ranges
        (events.foldl (BookingForm.step today) s).range := by
    intro events
    induction events with
    | nil => exact fun s h => h
    | cons event rest ih =>
      intro s h
      rw [List.foldl_cons]
      exact ih _ (step_fits today h event)
  exact hloop events BookingForm.empty .clear

/-- **The selection never lies across closed nights.**  After any presses of day buttons and any
loads of any units' nights, a selection with both ends is in order and none of its nights is closed
in the list the form holds, and neither is a check-in alone. -/
theorem selection_open (today : String) (events : List FormEvent) :
    (∀ ci co, (BookingForm.run today events).range = ⟨some ci, some co⟩ →
      ci < co ∧ ∀ night, ci ≤ night → night < co →
        isTaken night (BookingForm.run today events).taken.ranges = false) ∧
    ∀ ci, (BookingForm.run today events).range = ⟨some ci, none⟩ →
      isTaken ci (BookingForm.run today events).taken.ranges = false := by
  have hfits := run_fits today events
  constructor
  · intro ci co hr
    rw [hr] at hfits
    cases hfits with
    | stay set ordered free => exact ⟨ordered, free⟩
  · intro ci hr
    rw [hr] at hfits
    cases hfits with
    | checkIn set free => exact free

end Web

end Sahel

import Mathlib.Order.Bounds.Basic
import Mathlib.Order.SuccPred.IntervalSucc
import Provenance.Proofs.CalendarYears
import Provenance.Time.Zone
import Provenance.Time.ZoneText

/-!
Which instant `Zone.toEpoch` picks for a local time. What a zone shows is told by instants: daylight
time is in force when it has started and not stopped since (`Daylight.InForce`), and the wall clock
is ahead by the offset in force (`Zone.Shows`). In a zone whose yearly changes alternate and stay
within their years (`Zone.IsOrderly`) the changes of one year tell which instants show a wall clock
of the year (`Daylight.IsNorthern.inForce_iff`, `Daylight.IsSouthern.inForce_iff`), and this is
compared with the classification case by case (`Daylight.tells_classify`). So the instant picked is
the latest one that shows the time, but the earlier one where clocks are turned back, and for a time
that is skipped the one that shows it after the jump, if the hour before it is not skipped as well
(`Zone.picked_instant`).
-/

set_option autoImplicit false
set_option relaxedAutoImplicit false

namespace Provenance

open Calendar

/-! ### Instants and what is shown at them -/

namespace Daylight

/-- The instant at which daylight time starts in a year. -/
def startAt (daylight : Daylight) (standard year : Int) : Int :=
  daylight.start.seconds year - standard

/-- The instant at which daylight time stops in a year. -/
def stopAt (daylight : Daylight) (year : Int) : Int :=
  daylight.stop.seconds year - daylight.offset

/-- Daylight time has started, and has not stopped since. -/
def InForce (daylight : Daylight) (standard instant : Int) : Prop :=
  ∃ year, daylight.startAt standard year ≤ instant ∧
    ∀ other, daylight.stopAt other ≤ instant →
      daylight.stopAt other < daylight.startAt standard year

end Daylight

/-- At the instant the zone shows the wall clock. -/
def Zone.Shows (zone : Zone) (instant clock : Int) : Prop :=
  match zone.daylight with
  | none => clock = instant + zone.standard
  | some daylight =>
    (daylight.InForce zone.standard instant ∧ clock = instant + daylight.offset) ∨
      (¬daylight.InForce zone.standard instant ∧ clock = instant + zone.standard)

/-! ### Changes that alternate -/

namespace Daylight

/-- Daylight time starts in each year, an hour or more into it, and stops later in the year. The
spans that the clocks skip and those that they show twice do not meet. -/
structure IsNorthern (daylight : Daylight) (standard : Int) : Prop where
  days (year : Int) : daylight.start.day year < daylight.stop.day year
  opens (year : Int) : yearStart year + 3600 ≤ daylight.start.seconds year
  apart (year : Int) : daylight.start.seconds year + (daylight.offset - standard) ≤
    daylight.stop.seconds year - (daylight.offset - standard)
  closes (year : Int) : daylight.stop.seconds year ≤ yearStart (year + 1)

/-- Daylight time stops in each year, and starts again more than an hour later. The spans that the
clocks skip and those that they show twice lie within the year. -/
structure IsSouthern (daylight : Daylight) (standard : Int) : Prop where
  days (year : Int) : daylight.stop.day year ≤ daylight.start.day year
  opens (year : Int) : yearStart year ≤ daylight.stop.seconds year - (daylight.offset - standard)
  apart (year : Int) : daylight.stop.seconds year + 3600 < daylight.start.seconds year
  closes (year : Int) :
    daylight.start.seconds year + (daylight.offset - standard) ≤ yearStart (year + 1)

variable {daylight : Daylight} {standard instant clock : Int}

/-- Starts and stops that alternate: what holds since a start holds up to the stop that follows it,
and no longer. -/
theorem alternating {start stop : Int → Int} (hstop : ∀ year, start year < stop year)
    (hstart : ∀ year, stop year < start (year + 1)) (year : Int) :
    (start year ≤ instant → instant < stop year →
      ∃ year, start year ≤ instant ∧ ∀ other, stop other ≤ instant → stop other < start year) ∧
    (stop year ≤ instant → instant < start (year + 1) →
      ¬∃ year, start year ≤ instant ∧ ∀ other, stop other ≤ instant → stop other < start year) := by
  have hstarts : StrictMono start :=
    strictMono_int_of_lt_succ fun year ↦ (hstop year).trans (hstart year)
  have hstops : StrictMono stop :=
    strictMono_int_of_lt_succ fun year ↦ (hstart year).trans (hstop (year + 1))
  constructor
  · intro hfrom huntil
    refine ⟨year, hfrom, fun other hother ↦ ?_⟩
    have hbefore : other < year := hstops.lt_iff_lt.mp (hother.trans_lt huntil)
    exact (hstart other).trans_le (hstarts.monotone hbefore)
  · rintro hfrom huntil ⟨other, hother, hlast⟩
    have hbefore : other ≤ year :=
      Int.le_of_lt_add_one (hstarts.lt_iff_lt.mp (hother.trans_lt huntil))
    have hearlier : start other < stop year := (hstarts.monotone hbefore).trans_lt (hstop year)
    exact absurd (hlast year hfrom) (not_lt.mpr hearlier.le)

/-- The changes of a year decide for the instants of the year. -/
theorem IsNorthern.inForce_iff (h : daylight.IsNorthern standard)
    (hahead : standard < daylight.offset) (year : Int)
    (hfirst : yearStart year - daylight.offset ≤ instant)
    (hlast : instant < yearStart (year + 1) - standard) :
    daylight.InForce standard instant ↔
      daylight.startAt standard year ≤ instant ∧ instant < daylight.stopAt year := by
  have hstop : ∀ year, daylight.startAt standard year < daylight.stopAt year := by
    intro year
    have hapart := h.apart year
    unfold startAt stopAt
    omega
  have hstart : ∀ year, daylight.stopAt year < daylight.startAt standard (year + 1) := by
    intro year
    have hcloses := h.closes year
    have hopens := h.opens (year + 1)
    unfold startAt stopAt
    omega
  have hbefore := h.closes (year - 1)
  have hafter := h.opens (year + 1)
  have hyear : year - 1 + 1 = year := by omega
  rw [hyear] at hbefore
  by_cases hstarted : daylight.startAt standard year ≤ instant
  · by_cases hstopped : instant < daylight.stopAt year
    · exact iff_of_true ((alternating hstop hstart year).1 hstarted hstopped) ⟨hstarted, hstopped⟩
    · refine iff_of_false ((alternating hstop hstart year).2 (not_lt.mp hstopped) ?_) fun h ↦
        hstopped h.2
      unfold startAt
      omega
  · refine iff_of_false ((alternating hstop hstart (year - 1)).2 ?_ ?_) fun h ↦
      hstarted h.1
    · unfold stopAt
      omega
    · rw [hyear]
      exact not_le.mp hstarted

theorem IsSouthern.inForce_iff (h : daylight.IsSouthern standard)
    (hahead : standard < daylight.offset) (year : Int)
    (hfirst : yearStart year - daylight.offset ≤ instant)
    (hlast : instant < yearStart (year + 1) - standard) :
    daylight.InForce standard instant ↔
      instant < daylight.stopAt year ∨ daylight.startAt standard year ≤ instant := by
  have hstop : ∀ year, daylight.startAt standard year < daylight.stopAt (year + 1) := by
    intro year
    have hcloses := h.closes year
    have hopens := h.opens (year + 1)
    unfold startAt stopAt
    omega
  have hstart : ∀ year, daylight.stopAt (year + 1) < daylight.startAt standard (year + 1) := by
    intro year
    have hapart := h.apart (year + 1)
    unfold startAt stopAt
    omega
  have hshift : daylight.InForce standard instant ↔
      ∃ year, daylight.startAt standard year ≤ instant ∧
        ∀ other, daylight.stopAt (other + 1) ≤ instant →
          daylight.stopAt (other + 1) < daylight.startAt standard year := by
    refine exists_congr fun year ↦ and_congr_right' ⟨fun hall other ↦ hall (other + 1), ?_⟩
    intro hall other
    simpa using hall (other - 1)
  have hbefore := h.closes (year - 1)
  have hafter := h.opens (year + 1)
  have hyear : year - 1 + 1 = year := by omega
  rw [hyear] at hbefore
  rw [hshift]
  by_cases hstarted : daylight.startAt standard year ≤ instant
  · refine iff_of_true ((alternating hstop hstart year).1 hstarted ?_) (.inr hstarted)
    unfold stopAt
    omega
  · by_cases hstopped : instant < daylight.stopAt year
    · refine iff_of_true ((alternating hstop hstart (year - 1)).1 ?_ ?_) (.inl hstopped)
      · unfold startAt
        omega
      · rw [hyear]
        exact hstopped
    · refine iff_of_false ((alternating hstop hstart (year - 1)).2 ?_ ?_) fun h ↦
        h.elim hstopped hstarted
      · rw [hyear]
        exact not_lt.mp hstopped
      · rw [hyear]
        exact not_le.mp hstarted

/-! ### How a wall clock is classified -/

/-- Clocks that stop showing daylight time are turned back over the wall clock. The end of the span
counts, although it is shown once only. -/
def TurnsBack (daylight : Daylight) (standard year clock : Int) : Prop :=
  daylight.stop.seconds year - (daylight.offset - standard) ≤ clock ∧
    clock ≤ daylight.stop.seconds year

/-- A wall clock near the jump to daylight time is read in standard time: all before the jump, and
that of the jump itself if daylight time stops later in the year. -/
def readsStandard (daylight : Daylight) (year clock : Int) : Bool :=
  clock < daylight.start.seconds year ||
    (clock == daylight.start.seconds year && daylight.start.day year < daylight.stop.day year)

/-- What the changes of a year make of a wall clock: at which offsets it is shown, and how it is
classified. -/
inductive Tells (daylight : Daylight) (standard year clock : Int) : Shown → Prop
  | winter (hstandard : ¬daylight.InForce standard (clock - standard))
      (hdaylight : ¬daylight.InForce standard (clock - daylight.offset))
      (hback : ¬daylight.TurnsBack standard year clock) : Tells daylight standard year clock
        (.once standard)
  | summer (hstandard : daylight.InForce standard (clock - standard))
      (hdaylight : daylight.InForce standard (clock - daylight.offset))
      (hback : ¬daylight.TurnsBack standard year clock) : Tells daylight standard year clock
        (.once daylight.offset)
  | back (hstandard : ¬daylight.InForce standard (clock - standard))
      (hback : daylight.TurnsBack standard year clock) : Tells daylight standard year clock
        (.twice standard daylight.offset)
  | skipped (hstandard : daylight.InForce standard (clock - standard))
      (hdaylight : ¬daylight.InForce standard (clock - daylight.offset))
      (hfrom : daylight.start.seconds year ≤ clock)
      (huntil : clock < daylight.start.seconds year + (daylight.offset - standard)) :
      Tells daylight standard year clock
        (if daylight.readsStandard year clock then .once standard else .never)

end Daylight

namespace Zone

variable {zone : Zone} {daylight : Daylight} {year clock : Int}

theorem classify_northern (hzone : zone.daylight = some daylight)
    (hahead : zone.standard < daylight.offset)
    (hdays : daylight.start.day year < daylight.stop.day year) :
    zone.classify year clock =
      if clock ≤ daylight.start.seconds year then .once zone.standard
      else if clock < daylight.start.seconds year + (daylight.offset - zone.standard) then .never
      else if clock < daylight.stop.seconds year - (daylight.offset - zone.standard) then
        .once daylight.offset
      else if clock ≤ daylight.stop.seconds year then .twice zone.standard daylight.offset
      else .once zone.standard := by
  rw [classify, hzone]
  dsimp only
  rw [if_neg hahead.ne, if_pos hahead, if_pos hdays]

theorem classify_southern (hzone : zone.daylight = some daylight)
    (hahead : zone.standard < daylight.offset)
    (hdays : daylight.stop.day year ≤ daylight.start.day year) :
    zone.classify year clock =
      if clock < daylight.stop.seconds year - (daylight.offset - zone.standard) then
        .once daylight.offset
      else if clock ≤ daylight.stop.seconds year then .twice zone.standard daylight.offset
      else if clock < daylight.start.seconds year then .once zone.standard
      else if clock < daylight.start.seconds year + (daylight.offset - zone.standard) then .never
      else .once daylight.offset := by
  rw [classify, hzone]
  dsimp only
  rw [if_neg hahead.ne, if_pos hahead, if_neg (not_lt.mpr hdays)]

end Zone

namespace Daylight

variable {zone : Zone} {daylight : Daylight} {year clock : Int}

theorem IsNorthern.classify_near_jump (h : daylight.IsNorthern zone.standard)
    (hzone : zone.daylight = some daylight) (hahead : zone.standard < daylight.offset)
    (huntil : clock < daylight.start.seconds year + (daylight.offset - zone.standard)) :
    zone.classify year clock =
      if daylight.readsStandard year clock then .once zone.standard else .never := by
  have hreads : daylight.readsStandard year clock = true ↔
      clock ≤ daylight.start.seconds year := by
    simp [readsStandard, h.days year, le_iff_lt_or_eq]
  simp only [Zone.classify_northern hzone hahead (h.days year), hreads]
  rw [if_pos huntil]

theorem IsSouthern.classify_near_jump (h : daylight.IsSouthern zone.standard)
    (hzone : zone.daylight = some daylight) (hahead : zone.standard < daylight.offset)
    (hfrom : daylight.start.seconds year - 3600 ≤ clock)
    (huntil : clock < daylight.start.seconds year + (daylight.offset - zone.standard)) :
    zone.classify year clock =
      if daylight.readsStandard year clock then .once zone.standard else .never := by
  have hreads : daylight.readsStandard year clock = true ↔
      clock < daylight.start.seconds year := by
    simp [readsStandard, not_lt.mpr (h.days year)]
  have hapart := h.apart year
  simp only [Zone.classify_southern hzone hahead (h.days year), hreads]
  rw [if_neg (by omega), if_neg (by omega), if_pos huntil]

theorem IsNorthern.tells_classify (h : daylight.IsNorthern zone.standard)
    (hzone : zone.daylight = some daylight) (hahead : zone.standard < daylight.offset)
    (hfirst : yearStart year ≤ clock) (hlast : clock < yearStart (year + 1)) :
    daylight.Tells zone.standard year clock (zone.classify year clock) := by
  have hstandard : daylight.InForce zone.standard (clock - zone.standard) ↔ _ :=
    h.inForce_iff hahead year (by omega) (by omega)
  have hdaylight : daylight.InForce zone.standard (clock - daylight.offset) ↔ _ :=
    h.inForce_iff hahead year (by omega) (by omega)
  have hapart := h.apart year
  unfold startAt stopAt at hstandard hdaylight
  by_cases hskipped : daylight.start.seconds year ≤ clock ∧
      clock < daylight.start.seconds year + (daylight.offset - zone.standard)
  · rw [h.classify_near_jump hzone hahead hskipped.2]
    refine .skipped ?_ ?_ hskipped.1 hskipped.2 <;> simp only [hstandard, hdaylight] <;> omega
  · rw [Zone.classify_northern hzone hahead (h.days year)]
    split_ifs with hbefore hjump hsummer hback
    · refine .winter ?_ ?_ ?_ <;> simp only [hstandard, hdaylight, TurnsBack] <;> omega
    · omega
    · refine .summer ?_ ?_ ?_ <;> simp only [hstandard, hdaylight, TurnsBack] <;> omega
    · refine .back ?_ ⟨not_lt.mp hsummer, hback⟩
      rw [hstandard]
      omega
    · refine .winter ?_ ?_ ?_ <;> simp only [hstandard, hdaylight, TurnsBack] <;> omega

theorem IsSouthern.tells_classify (h : daylight.IsSouthern zone.standard)
    (hzone : zone.daylight = some daylight) (hahead : zone.standard < daylight.offset)
    (hfirst : yearStart year ≤ clock) (hlast : clock < yearStart (year + 1)) :
    daylight.Tells zone.standard year clock (zone.classify year clock) := by
  have hstandard : daylight.InForce zone.standard (clock - zone.standard) ↔ _ :=
    h.inForce_iff hahead year (by omega) (by omega)
  have hdaylight : daylight.InForce zone.standard (clock - daylight.offset) ↔ _ :=
    h.inForce_iff hahead year (by omega) (by omega)
  have hapart := h.apart year
  unfold startAt stopAt at hstandard hdaylight
  by_cases hskipped : daylight.start.seconds year ≤ clock ∧
      clock < daylight.start.seconds year + (daylight.offset - zone.standard)
  · rw [h.classify_near_jump hzone hahead (by omega) hskipped.2]
    refine .skipped ?_ ?_ hskipped.1 hskipped.2 <;> simp only [hstandard, hdaylight] <;> omega
  · rw [Zone.classify_southern hzone hahead (h.days year)]
    split_ifs with hsummer hback hwinter hjump
    · refine .summer ?_ ?_ ?_ <;> simp only [hstandard, hdaylight, TurnsBack] <;> omega
    · refine .back ?_ ⟨not_lt.mp hsummer, hback⟩
      rw [hstandard]
      omega
    · refine .winter ?_ ?_ ?_ <;> simp only [hstandard, hdaylight, TurnsBack] <;> omega
    · omega
    · refine .summer ?_ ?_ ?_ <;> simp only [hstandard, hdaylight, TurnsBack] <;> omega

end Daylight

namespace Zone

variable {zone : Zone} {daylight : Daylight} {t : DateTime} {year clock offset : Int}

/-- Offsets are at most 25 hours. Daylight time is ahead of standard time, and its changes alternate
and stay within their years. -/
structure IsOrderly (zone : Zone) : Prop where
  standard : -90000 ≤ zone.standard ∧ zone.standard ≤ 90000
  ahead : ∀ daylight ∈ zone.daylight, zone.standard < daylight.offset ∧ daylight.offset ≤ 90000
  changes : ∀ daylight ∈ zone.daylight,
    daylight.IsNorthern zone.standard ∨ daylight.IsSouthern zone.standard

theorem IsOrderly.tells_classify (h : zone.IsOrderly) (hzone : zone.daylight = some daylight)
    (hfirst : yearStart year ≤ clock) (hlast : clock < yearStart (year + 1)) :
    daylight.Tells zone.standard year clock (zone.classify year clock) := by
  have hahead := (h.ahead daylight hzone).1
  rcases h.changes daylight hzone with hnorthern | hsouthern
  · exact hnorthern.tells_classify hzone hahead hfirst hlast
  · exact hsouthern.tells_classify hzone hahead hfirst hlast

theorem IsOrderly.classify_near_jump (h : zone.IsOrderly) (hzone : zone.daylight = some daylight)
    (hfrom : daylight.start.seconds year - 3600 ≤ clock)
    (huntil : clock < daylight.start.seconds year + (daylight.offset - zone.standard)) :
    zone.classify year clock =
      if daylight.readsStandard year clock then .once zone.standard else .never := by
  have hahead := (h.ahead daylight hzone).1
  rcases h.changes daylight hzone with hnorthern | hsouthern
  · exact hnorthern.classify_near_jump hzone hahead huntil
  · exact hsouthern.classify_near_jump hzone hahead hfrom huntil

/-- The hour before daylight time starts is in the same year. -/
theorem IsOrderly.yearStart_le_start (h : zone.IsOrderly) (hzone : zone.daylight = some daylight)
    (year : Int) : yearStart year ≤ daylight.start.seconds year - 3600 := by
  have hahead := (h.ahead daylight hzone).1
  rcases h.changes daylight hzone with hnorthern | hsouthern
  · have hopens := hnorthern.opens year
    omega
  · have hopens := hsouthern.opens year
    have hapart := hsouthern.apart year
    omega

end Zone

/-! ### Rules with changes in different months -/

/-- A change on some weekday of a month from February to November, within a week of its start or
end. -/
structure YearlyChange.IsOrdinary (change : YearlyChange) : Prop where
  month : 2 ≤ change.month ∧ change.month ≤ 11
  week : change.week ≤ 5
  weekday : change.weekday ≤ 6
  time : -604800 ≤ change.time ∧ change.time ≤ 604800

theorem YearlyChange.IsOrdinary.day_bounds {change : YearlyChange} (h : change.IsOrdinary)
    (year : Int) : dayNumber year change.month 1 ≤ change.day year ∧
      change.day year ≤ dayNumber year change.month 1 + 30 := by
  have hlength : 28 ≤ monthLength year change.month ∧ monthLength year change.month ≤ 31 := by
    unfold monthLength
    split
    · split <;> omega
    all_goals omega
  have hweek := h.week
  have hweekday := h.weekday
  unfold day
  dsimp only
  split <;> omega

/-- The change lies within a week of its month. -/
theorem YearlyChange.IsOrdinary.seconds_bounds {change : YearlyChange} (h : change.IsOrdinary)
    (year : Int) : dayNumber year change.month 1 * 86400 - 604800 ≤ change.seconds year ∧
      change.seconds year ≤ dayNumber year change.month 1 * 86400 + 30 * 86400 + 604800 := by
  have hday := h.day_bounds year
  have htime := h.time
  unfold seconds
  omega

namespace Zone

variable {zone : Zone} {daylight : Daylight} {standard : Int}

theorem isNorthern_of_months (hstart : daylight.start.IsOrdinary) (hstop : daylight.stop.IsOrdinary)
    (hapart : daylight.start.month + 2 ≤ daylight.stop.month)
    (hfar : daylight.offset - standard ≤ 180000) : daylight.IsNorthern standard := by
  have hlong := fun year ↦ months_apart year hstart.month.1 hapart hstop.month.2
  refine ⟨fun year ↦ ?_, fun year ↦ ?_, fun year ↦ ?_, fun year ↦ ?_⟩
  · have hlongYear := hlong year
    have hstartDay := hstart.day_bounds year
    have hstopDay := hstop.day_bounds year
    omega
  · have hfirst := first_of_month_bounds year hstart.month.1 hstart.month.2
    have hseconds := hstart.seconds_bounds year
    omega
  · have hlongYear := hlong year
    have hstartSeconds := hstart.seconds_bounds year
    have hstopSeconds := hstop.seconds_bounds year
    omega
  · have hfirst := first_of_month_bounds year hstop.month.1 hstop.month.2
    have hseconds := hstop.seconds_bounds year
    omega

theorem isSouthern_of_months (hstart : daylight.start.IsOrdinary) (hstop : daylight.stop.IsOrdinary)
    (hapart : daylight.stop.month + 2 ≤ daylight.start.month)
    (hfar : daylight.offset - standard ≤ 180000) : daylight.IsSouthern standard := by
  have hlong := fun year ↦ months_apart year hstop.month.1 hapart hstart.month.2
  refine ⟨fun year ↦ ?_, fun year ↦ ?_, fun year ↦ ?_, fun year ↦ ?_⟩
  · have hlongYear := hlong year
    have hstartDay := hstart.day_bounds year
    have hstopDay := hstop.day_bounds year
    omega
  · have hfirst := first_of_month_bounds year hstop.month.1 hstop.month.2
    have hseconds := hstop.seconds_bounds year
    omega
  · have hlongYear := hlong year
    have hstartSeconds := hstart.seconds_bounds year
    have hstopSeconds := hstop.seconds_bounds year
    omega
  · have hfirst := first_of_month_bounds year hstart.month.1 hstart.month.2
    have hseconds := hstart.seconds_bounds year
    omega

/-- A zone whose changes are two months or more apart is orderly, however far the clocks are put
forward, and whichever change comes first in the year. -/
theorem isOrderly_of_months (hstandard : -90000 ≤ zone.standard ∧ zone.standard ≤ 90000)
    (hahead : ∀ daylight ∈ zone.daylight,
      zone.standard < daylight.offset ∧ daylight.offset ≤ 90000)
    (hchanges : ∀ daylight ∈ zone.daylight, daylight.start.IsOrdinary ∧ daylight.stop.IsOrdinary)
    (hapart : ∀ daylight ∈ zone.daylight, daylight.start.month + 2 ≤ daylight.stop.month ∨
      daylight.stop.month + 2 ≤ daylight.start.month) : zone.IsOrderly := by
  refine ⟨hstandard, hahead, fun daylight hzone ↦ ?_⟩
  obtain ⟨-, hfar⟩ := hahead daylight hzone
  obtain ⟨hstart, hstop⟩ := hchanges daylight hzone
  exact (hapart daylight hzone).imp
    (fun hmonths ↦ isNorthern_of_months hstart hstop hmonths (by omega))
    fun hmonths ↦ isSouthern_of_months hstart hstop hmonths (by omega)

end Zone

namespace Zone

variable {zone : Zone} {daylight : Daylight} {t : DateTime} {year clock offset : Int}

/-! ### What is picked -/

theorem instants_of_once (hclass : zone.classify year clock = .once offset)
    (hholds : holds (clock - offset) = true) : zone.instants year clock = [clock - offset] := by
  rw [instants, hclass]
  dsimp only
  rw [instant?, if_pos hholds]
  rfl

theorem instants_of_never (hclass : zone.classify year clock = .never) :
    zone.instants year clock = [] := by
  rw [instants, hclass]

theorem toEpoch_of_once (hclass : zone.classify t.year t.seconds = .once offset)
    (hholds : holds (t.seconds - offset) = true) :
    zone.toEpoch t = some (t.seconds - offset) := by
  rw [toEpoch, instants_of_once hclass hholds]
  rfl

theorem toEpoch_of_twice {first : Int}
    (hclass : zone.classify t.year t.seconds = .twice first offset)
    (hfirst : holds (t.seconds - first) = true) (hholds : holds (t.seconds - offset) = true) :
    zone.toEpoch t = some (t.seconds - offset) := by
  rw [toEpoch, instants, hclass]
  dsimp only
  rw [instant?, instant?, if_pos hfirst, if_pos hholds]
  rfl

/-- Where a time is never shown the hour before it is tried. -/
theorem toEpoch_of_never (hclass : zone.classify t.year t.seconds = .never)
    (hholds : holds t.secondsAnHourEarlier = true)
    (hyear : yearOf (t.secondsAnHourEarlier / 86400) = t.year) :
    zone.toEpoch t =
      some ((zone.instants t.year t.secondsAnHourEarlier).getLast?.elim t.seconds (· + 3600)) := by
  rw [toEpoch, instants_of_never hclass]
  dsimp only [List.getLast?_nil]
  rw [if_pos hholds, hyear]
  cases (zone.instants t.year t.secondsAnHourEarlier).getLast? <;> rfl

theorem hourEarlier_bounds (t : DateTime) :
    t.seconds - 3600 ≤ t.secondsAnHourEarlier ∧ t.secondsAnHourEarlier ≤ t.seconds := by
  unfold DateTime.secondsAnHourEarlier
  split <;> omega

/-- Where clocks jump to daylight time, the hour before a time that is skipped is before the jump or
skipped as well. -/
theorem IsOrderly.toEpoch_of_skipped (h : zone.IsOrderly) (hzone : zone.daylight = some daylight)
    (hvalid : t.isValid = true) (hfrom : daylight.start.seconds t.year ≤ t.seconds)
    (huntil : t.seconds < daylight.start.seconds t.year + (daylight.offset - zone.standard))
    (hholds : ∀ clock, t.seconds - 3600 ≤ clock → clock ≤ t.seconds →
      holds clock = true ∧ holds (clock - zone.standard) = true) :
    zone.toEpoch t = some (
      if daylight.readsStandard t.year t.seconds then t.seconds - zone.standard
      else if daylight.readsStandard t.year t.secondsAnHourEarlier then
        t.secondsAnHourEarlier - zone.standard + 3600
      else t.seconds) := by
  obtain ⟨hlow, hhigh⟩ := hourEarlier_bounds t
  have hclass := h.classify_near_jump hzone (by omega) huntil
  by_cases hreads : daylight.readsStandard t.year t.seconds = true
  · rw [if_pos hreads] at hclass ⊢
    exact toEpoch_of_once hclass (hholds t.seconds (by omega) (by omega)).2
  · rw [if_neg hreads] at hclass ⊢
    obtain ⟨hearlier, hmoved⟩ := hholds t.secondsAnHourEarlier hlow hhigh
    have hnear : zone.classify t.year t.secondsAnHourEarlier =
        if daylight.readsStandard t.year t.secondsAnHourEarlier then .once zone.standard
        else .never := h.classify_near_jump hzone (by omega) (by omega)
    have hyear : yearOf (t.secondsAnHourEarlier / 86400) = t.year := by
      have hstart := h.yearStart_le_start hzone t.year
      have hnext := (DateTime.seconds_bounds hvalid).2
      exact yearOf_eq (by omega) (by omega)
    rw [toEpoch_of_never hclass hearlier hyear]
    by_cases hbefore : daylight.readsStandard t.year t.secondsAnHourEarlier = true
    · rw [if_pos hbefore] at hnear ⊢
      rw [instants_of_once hnear hmoved]
      rfl
    · rw [if_neg hbefore] at hnear ⊢
      rw [instants_of_never hnear]
      rfl

theorem shows_iff_of_none (hzone : zone.daylight = none) (clock instant : Int) :
    zone.Shows instant clock ↔ instant = clock - zone.standard := by
  rw [Shows, hzone]
  exact ⟨fun h ↦ by omega, fun h ↦ by omega⟩

theorem shows_iff_of_daylight (hzone : zone.daylight = some daylight) (instant : Int) :
    zone.Shows instant clock ↔
      (daylight.InForce zone.standard instant ∧ instant = clock - daylight.offset) ∨
        (¬daylight.InForce zone.standard instant ∧ instant = clock - zone.standard) := by
  have hmoved : ∀ offset, clock = instant + offset ↔ instant = clock - offset := fun offset ↦
    ⟨fun h ↦ by omega, fun h ↦ by omega⟩
  rw [Shows, hzone]
  exact or_congr (and_congr_right' (hmoved _)) (and_congr_right' (hmoved _))

section Daylight

variable (hzone : zone.daylight = some daylight)

include hzone

theorem shows_iff_of_winter (hstandard : ¬daylight.InForce zone.standard (clock - zone.standard))
    (hdaylight : ¬daylight.InForce zone.standard (clock - daylight.offset)) (instant : Int) :
    zone.Shows instant clock ↔ instant = clock - zone.standard := by
  rw [shows_iff_of_daylight hzone]
  constructor
  · rintro (⟨hin, rfl⟩ | ⟨-, rfl⟩)
    · exact absurd hin hdaylight
    · rfl
  · rintro rfl
    exact .inr ⟨hstandard, rfl⟩

theorem shows_iff_of_summer (hstandard : daylight.InForce zone.standard (clock - zone.standard))
    (hdaylight : daylight.InForce zone.standard (clock - daylight.offset)) (instant : Int) :
    zone.Shows instant clock ↔ instant = clock - daylight.offset := by
  rw [shows_iff_of_daylight hzone]
  constructor
  · rintro (⟨-, rfl⟩ | ⟨hnot, rfl⟩)
    · rfl
    · exact absurd hstandard hnot
  · rintro rfl
    exact .inl ⟨hdaylight, rfl⟩

/-- Standard time is behind, so an instant at which it is in force is the later one. -/
theorem isGreatest_of_standard (hahead : zone.standard < daylight.offset)
    (hstandard : ¬daylight.InForce zone.standard (clock - zone.standard)) :
    IsGreatest {instant | zone.Shows instant clock} (clock - zone.standard) := by
  refine ⟨(shows_iff_of_daylight hzone _).mpr (.inr ⟨hstandard, rfl⟩), fun instant hinstant ↦ ?_⟩
  rcases (shows_iff_of_daylight hzone instant).mp hinstant with ⟨-, rfl⟩ | ⟨-, rfl⟩ <;> omega

theorem not_shows_of_skipped (hstandard : daylight.InForce zone.standard (clock - zone.standard))
    (hdaylight : ¬daylight.InForce zone.standard (clock - daylight.offset)) (instant : Int) :
    ¬zone.Shows instant clock := by
  rw [shows_iff_of_daylight hzone]
  rintro (⟨hin, rfl⟩ | ⟨hnot, rfl⟩)
  · exact hdaylight hin
  · exact hnot hstandard

end Daylight

/-- Clocks are turned back over the wall clock. -/
def TurnsBack (zone : Zone) (year clock : Int) : Prop :=
  ∃ daylight ∈ zone.daylight, daylight.TurnsBack zone.standard year clock

theorem turnsBack_iff (hzone : zone.daylight = some daylight) :
    zone.TurnsBack year clock ↔ daylight.TurnsBack zone.standard year clock := by
  simp [TurnsBack, hzone]

/-- An instant that alone shows a wall clock is the latest one. -/
theorem latest_of_once {epoch : Int}
    (hshows : ∀ instant, zone.Shows instant clock ↔ instant = epoch)
    (hback : ¬zone.TurnsBack year clock) :
    ∃ latest, IsGreatest {instant | zone.Shows instant clock} latest ∧
      (epoch = latest ↔ ¬zone.TurnsBack year clock) ∧
      ∀ daylight ∈ zone.daylight, daylight.TurnsBack zone.standard year clock →
        epoch = latest - (daylight.offset - zone.standard) := by
  refine ⟨epoch, ⟨(hshows epoch).mpr rfl, fun instant hinstant ↦ ?_⟩, ?_, fun daylight hzone h ↦ ?_⟩
  · exact ((hshows instant).mp hinstant).le
  · exact iff_of_true rfl hback
  · exact absurd ⟨daylight, hzone, h⟩ hback

/-- The instant that is picked for a local time: it is the latest one that shows it, unless clocks
are turned back over it. There the time is taken at the offset of daylight time, which is earlier.
A time that is never shown is taken at the offset before the jump, so that the clock shows it as
much later as the clocks are put forward, if it is within an hour of the jump; that of a leap second
is then one second later. It is taken as universal time if it is further in. -/
theorem picked_instant (h : zone.IsOrderly) (hvalid : t.isValid = true)
    (hfirst : firstSecond + 172800 < t.seconds) (hlast : t.seconds + 172800 < lastSecond) :
    ∃ epoch, zone.toEpoch t = some epoch ∧
      (∀ instant, zone.Shows instant t.seconds →
        ∃ latest, IsGreatest {instant | zone.Shows instant t.seconds} latest ∧
          (epoch = latest ↔ ¬zone.TurnsBack t.year t.seconds) ∧
          ∀ daylight ∈ zone.daylight, daylight.TurnsBack zone.standard t.year t.seconds →
            epoch = latest - (daylight.offset - zone.standard)) ∧
      ((∀ instant, ¬zone.Shows instant t.seconds) →
        ∃ daylight ∈ zone.daylight,
          zone.Shows (t.seconds - zone.standard)
            (t.seconds + (daylight.offset - zone.standard)) ∧
          epoch = if daylight.readsStandard t.year t.seconds then t.seconds - zone.standard
            else if daylight.readsStandard t.year t.secondsAnHourEarlier then
              t.secondsAnHourEarlier - zone.standard + 3600
            else t.seconds) := by
  have hholds : ∀ clock offset, t.seconds - 3600 ≤ clock → clock ≤ t.seconds →
      -90000 ≤ offset → offset ≤ 90000 → holds (clock - offset) = true := by
    intro clock offset hfrom huntil hwest heast
    simp only [holds, Bool.and_eq_true, decide_eq_true_eq]
    omega
  obtain ⟨hwest, heast⟩ := h.standard
  have hstandard := hholds t.seconds zone.standard (by omega) (by omega) hwest heast
  cases hzone : zone.daylight with
  | none =>
    have hclass : zone.classify t.year t.seconds = .once zone.standard := by rw [classify, hzone]
    have hshows := shows_iff_of_none hzone t.seconds
    refine ⟨_, toEpoch_of_once hclass hstandard, fun _ _ ↦ ?_, fun hnever ↦ ?_⟩
    · rw [← hzone]
      exact latest_of_once hshows (by simp [TurnsBack, hzone])
    · exact absurd ((hshows _).mpr rfl) (hnever _)
  | some daylight =>
    obtain ⟨hyear, hnext⟩ := DateTime.seconds_bounds hvalid
    obtain ⟨hahead, hfar⟩ := h.ahead daylight hzone
    have hdaylight := hholds t.seconds daylight.offset (by omega) (by omega) (by omega) hfar
    have htells := h.tells_classify hzone hyear hnext
    generalize hclass : zone.classify t.year t.seconds = shown at htells
    cases htells with
    | winter hnot hnone hback =>
      have hshows := shows_iff_of_winter hzone hnot hnone
      refine ⟨_, toEpoch_of_once hclass hstandard, fun _ _ ↦ ?_, fun hnever ↦ ?_⟩
      · rw [← hzone]
        exact latest_of_once hshows (mt (turnsBack_iff hzone).mp hback)
      · exact absurd ((hshows _).mpr rfl) (hnever _)
    | summer hin hon hback =>
      have hshows := shows_iff_of_summer hzone hin hon
      refine ⟨_, toEpoch_of_once hclass hdaylight, fun _ _ ↦ ?_, fun hnever ↦ ?_⟩
      · rw [← hzone]
        exact latest_of_once hshows (mt (turnsBack_iff hzone).mp hback)
      · exact absurd ((hshows _).mpr rfl) (hnever _)
    | back hnot hback =>
      have hlatest := isGreatest_of_standard hzone hahead hnot
      refine ⟨_, toEpoch_of_twice hclass hstandard hdaylight, fun _ _ ↦ ?_, fun hnever ↦ ?_⟩
      · refine ⟨_, hlatest, ?_, ?_⟩
        · rw [turnsBack_iff hzone]
          exact iff_of_false (by omega) (not_not.mpr hback)
        · rintro other hother -
          obtain rfl := Option.mem_some_iff.mp hother
          omega
      · exact absurd hlatest.1 (hnever _)
    | skipped hin hnone hfrom huntil =>
      have hepoch := h.toEpoch_of_skipped hzone hvalid hfrom huntil fun clock hlow hhigh ↦
        ⟨by simpa using hholds clock 0 hlow hhigh (by omega) (by omega),
          hholds clock zone.standard hlow hhigh hwest heast⟩
      refine ⟨_, hepoch, fun instant hinstant ↦ ?_, fun _ ↦ ⟨daylight, rfl, ?_, rfl⟩⟩
      · exact absurd hinstant (not_shows_of_skipped hzone hin hnone instant)
      · rw [shows_iff_of_daylight hzone]
        exact .inl ⟨hin, by omega⟩

/-- Clocks are two hours ahead from the last Sunday of March to that of October. -/
def twoHoursAhead : Daylight := ⟨25200, ⟨3, 5, 0, 7200⟩, ⟨10, 5, 0, 7200⟩⟩

def easternZone : Zone := ⟨18000, some twoHoursAhead⟩

theorem isOrdinary_twoHoursAhead :
    twoHoursAhead.start.IsOrdinary ∧ twoHoursAhead.stop.IsOrdinary :=
  ⟨⟨by decide, by decide, by decide, by decide⟩, ⟨by decide, by decide, by decide, by decide⟩⟩

theorem isOrderly_easternZone : easternZone.IsOrderly := by
  refine isOrderly_of_months (by decide) ?_ ?_ ?_ <;> rintro daylight hzone <;>
    obtain rfl := Option.mem_some_iff.mp hzone
  · decide
  · exact isOrdinary_twoHoursAhead
  · exact .inl (by decide)

/-- Which instants show a wall clock of 2024. -/
theorem shows_easternZone {instant : Int} (hfirst : 1704067200 ≤ clock)
    (hlast : clock < 1735689600) : easternZone.Shows instant clock ↔
      ((1711832400 ≤ instant ∧ instant < 1729969200) ∧ instant = clock - 25200) ∨
        (¬(1711832400 ≤ instant ∧ instant < 1729969200) ∧ instant = clock - 18000) := by
  have hnorthern : twoHoursAhead.IsNorthern 18000 :=
    isNorthern_of_months isOrdinary_twoHoursAhead.1 isOrdinary_twoHoursAhead.2 (by decide)
      (by decide)
  have hstart : twoHoursAhead.startAt 18000 2024 = 1711832400 := by decide +kernel
  have hstop : twoHoursAhead.stopAt 2024 = 1729969200 := by decide +kernel
  have hyear : yearStart 2024 = 1704067200 ∧ yearStart (2024 + 1) = 1735689600 := by decide +kernel
  have hin : instant = clock - 25200 ∨ instant = clock - 18000 →
      (twoHoursAhead.InForce 18000 instant ↔ 1711832400 ≤ instant ∧ instant < 1729969200) := by
    intro hinstant
    have hfirst : yearStart 2024 - 25200 ≤ instant := by
      rw [hyear.1]
      omega
    have hlast : instant < yearStart (2024 + 1) - 18000 := by
      rw [hyear.2]
      omega
    rw [hnorthern.inForce_iff (by decide) 2024 hfirst hlast, hstart, hstop]
  have hzone : easternZone.daylight = some twoHoursAhead := rfl
  rw [shows_iff_of_daylight hzone]
  exact or_congr (and_congr_left fun h ↦ hin (.inl h))
    (and_congr_left fun h ↦ not_congr (hin (.inr h)))

/-- Noon in summer, at the only instant that shows it. -/
theorem noon_picked :
    easternZone.toEpoch ⟨2024, 7, 1, 12, 0, 0, 0⟩ = some 1719810000 ∧
      IsGreatest {instant | easternZone.Shows instant 1719835200} 1719810000 := by
  have hseconds : DateTime.seconds ⟨2024, 7, 1, 12, 0, 0, 0⟩ = 1719835200 := by decide +kernel
  have hnotBack : ¬easternZone.TurnsBack 2024 1719835200 := by
    have hzone : easternZone.daylight = some twoHoursAhead := rfl
    rw [turnsBack_iff hzone]
    unfold Daylight.TurnsBack
    decide +kernel
  obtain ⟨epoch, hepoch, hshown, -⟩ := picked_instant isOrderly_easternZone
    (t := ⟨2024, 7, 1, 12, 0, 0, 0⟩) (by decide) (by decide +kernel) (by decide +kernel)
  have hnoon : easternZone.toEpoch ⟨2024, 7, 1, 12, 0, 0, 0⟩ = some 1719810000 := by
    decide +kernel
  obtain rfl : epoch = 1719810000 := Option.some.inj (hepoch.symm.trans hnoon)
  rw [hseconds] at hshown
  obtain ⟨latest, hlatest, hiff, -⟩ := hshown 1719810000
    ((shows_easternZone (by decide) (by decide)).mpr (.inl (by decide)))
  obtain rfl := hiff.mpr hnotBack
  exact ⟨hnoon, hlatest⟩

/-- Half past three on the day of the jump from two to four is never shown; at the offset before the
jump it is read as half past five, but the instant that is picked for it is five hours later. Half
past one on the day when clocks are turned back from two to midnight is shown twice, and the instant
picked is the first. -/
theorem jump_and_return_missed :
    ofText "AAA-5BBB-7,M3.5.0,M10.5.0" = easternZone ∧
      DateTime.seconds ⟨2024, 3, 31, 3, 30, 0, 0⟩ = 1711855800 ∧
      (∀ instant, ¬easternZone.Shows instant 1711855800) ∧
      easternZone.Shows (1711855800 - 18000) (1711855800 + 7200) ∧
      easternZone.toEpoch ⟨2024, 3, 31, 3, 30, 0, 0⟩ = some (1711855800 - 18000 + 18000) ∧
      DateTime.seconds ⟨2024, 10, 27, 1, 30, 0, 0⟩ = 1729992600 ∧
      IsGreatest {instant | easternZone.Shows instant 1729992600} (1729992600 - 18000) ∧
      easternZone.toEpoch ⟨2024, 10, 27, 1, 30, 0, 0⟩ = some (1729992600 - 18000 - 7200) := by
  refine ⟨by decide +kernel, by decide +kernel, fun instant hshows ↦ ?_, ?_, by decide +kernel,
    by decide +kernel, ⟨?_, fun instant hshows ↦ ?_⟩, by decide +kernel⟩
  · rw [shows_easternZone (by decide) (by decide)] at hshows
    omega
  · rw [shows_easternZone (by decide) (by decide)]
    decide
  · exact (shows_easternZone (by decide) (by decide)).mpr (.inr (by decide))
  · have hshows := (shows_easternZone (by decide) (by decide)).mp hshows
    omega

end Zone

end Provenance

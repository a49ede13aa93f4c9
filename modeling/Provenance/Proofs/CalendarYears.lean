import Mathlib.Tactic.Ring
import Provenance.Proofs.WrittenTimes
import Provenance.Time.Calendar

/-!
The years of the calendar. They start one after another (`yearStart_mono`), a
date and time lies in its year (`yearStart_le_seconds`, `seconds_lt_yearStart`), and `yearOf` finds
the year of a day (`yearOf_eq`). Counted from March, a day is so many whole years after the start of
its era and so many days after that; the divisions of `yearOf` undo this count also on the leap day,
which is the last of its year (`yearOfEra_eq`).
-/

set_option autoImplicit false
set_option relaxedAutoImplicit false

namespace Provenance

namespace Calendar

/-- The wall clock at the start of a year. -/
def yearStart (year : Int) : Int := dayNumber year 1 1 * 86400

/-- The days from the first of March of the year 0 to that of another year. -/
def marchDays (year : Int) : Int := 365 * year + year / 4 - year / 100 + year / 400

theorem marchDays_lt (year : Int) : marchDays (year - 1) + 365 ≤ marchDays year := by
  unfold marchDays
  omega

theorem yearStart_eq (year : Int) :
    yearStart year = (marchDays (year - 1) + 306 - 719468) * 86400 := by
  unfold yearStart dayNumber marchDays
  dsimp only
  rw [if_pos (by decide)]
  omega

theorem yearStart_mono {year later : Int} (h : year ≤ later) :
    yearStart year ≤ yearStart later := by
  rw [yearStart_eq, yearStart_eq, marchDays, marchDays]
  omega

/-- The days from the first of March to the first of a month. -/
def marchMonth (month : Nat) : Nat := (153 * ((month + 9) % 12) + 2) / 5

theorem dayNumber_of_le {year : Int} {month : Nat} (day : Nat) (h : month ≤ 2) :
    dayNumber year month day = marchDays (year - 1) + marchMonth month + day - 719469 := by
  unfold dayNumber marchDays marchMonth
  dsimp only
  rw [if_pos h]

theorem dayNumber_of_lt {year : Int} {month : Nat} (day : Nat) (h : 2 < month) :
    dayNumber year month day = marchDays year + marchMonth month + day - 719469 := by
  unfold dayNumber marchDays marchMonth
  dsimp only
  rw [if_neg (Nat.not_le.mpr h)]

/-- A day of a month lies in the year. -/
theorem dayNumber_bounds {year : Int} {month day : Nat} (hmonth : 1 ≤ month) (hlast : month ≤ 12)
    (hday : 1 ≤ day) (hlength : day ≤ 31) :
    yearStart year ≤ dayNumber year month day * 86400 ∧
      dayNumber year month day * 86400 + 86400 ≤ yearStart (year + 1) := by
  have hnext : year + 1 - 1 = year := by omega
  rw [yearStart_eq, yearStart_eq, hnext]
  have hlong := marchDays_lt year
  by_cases hwinter : month ≤ 2
  · have hdays : 306 ≤ marchMonth month ∧ marchMonth month ≤ 337 := by
      unfold marchMonth
      omega
    rw [dayNumber_of_le day hwinter]
    omega
  · have hdays : marchMonth month ≤ 275 := by
      unfold marchMonth
      omega
    rw [dayNumber_of_lt day (Nat.not_le.mp hwinter)]
    omega

/-- From February to November a month starts weeks away from both ends of the year. -/
theorem first_of_month_bounds (year : Int) {month : Nat} (hfirst : 2 ≤ month)
    (hlast : month ≤ 11) :
    yearStart year + 31 * 86400 ≤ dayNumber year month 1 * 86400 ∧
      dayNumber year month 1 * 86400 + 61 * 86400 ≤ yearStart (year + 1) := by
  have hnext : year + 1 - 1 = year := by omega
  rw [yearStart_eq, yearStart_eq, hnext]
  have hlong := marchDays_lt year
  by_cases hwinter : month ≤ 2
  · have hdays : marchMonth month = 337 := by
      obtain rfl : month = 2 := by omega
      rfl
    rw [dayNumber_of_le 1 hwinter]
    omega
  · have hdays : marchMonth month ≤ 245 := by
      unfold marchMonth
      omega
    rw [dayNumber_of_lt 1 (Nat.not_le.mp hwinter)]
    omega

/-- Two months later is at least 59 days later. -/
theorem months_apart (year : Int) {month later : Nat} (hfirst : 2 ≤ month)
    (hapart : month + 2 ≤ later) (hlast : later ≤ 11) :
    dayNumber year month 1 + 59 ≤ dayNumber year later 1 := by
  have hlong := marchDays_lt year
  have hlater : 2 < later := by omega
  rw [dayNumber_of_lt 1 hlater]
  by_cases hwinter : month ≤ 2
  · have hdays : marchMonth month = 337 ∧ 31 ≤ marchMonth later := by
      obtain rfl : month = 2 := by omega
      unfold marchMonth
      omega
    rw [dayNumber_of_le 1 hwinter]
    omega
  · have hdays : marchMonth month + 59 ≤ marchMonth later := by
      unfold marchMonth
      omega
    rw [dayNumber_of_lt 1 (Nat.not_le.mp hwinter)]
    omega

/-! ### The year of a day -/

/-- The year of an era that begins in March, from the days since the era began: so many centuries,
so many times four years, so many years and `r` days. -/
theorem yearOfEra_eq {a b c r : Int} (ha : 0 ≤ a ∧ a ≤ 3) (hb : 0 ≤ b ∧ b ≤ 24)
    (hc : 0 ≤ c ∧ c ≤ 3) (hr : 0 ≤ r ∧ r ≤ 365) (hleap : r = 365 → c = 3 ∧ (b = 24 → a = 3))
    {inEra : Int} (h : inEra = 36524 * a + 1461 * b + 365 * c + r) :
    (inEra - inEra / 1460 + inEra / 36524 - inEra / 146096) / 365 = 100 * a + 4 * b + c := by
  have hcenturies : inEra / 36524 - inEra / 146096 = a := by
    obtain rfl | rfl | rfl | rfl : a = 0 ∨ a = 1 ∨ a = 2 ∨ a = 3 := by omega
    all_goals omega
  -- What the leap days and the last years make together is less than two times four years.
  obtain ⟨extra, hyears, hfirst, hlast⟩ : ∃ extra, inEra / 1460 = 25 * a + b + extra ∧
      0 ≤ r - extra ∧ r - extra ≤ 364 := by
    refine ⟨(24 * a + b + 365 * c + r) / 1460, by omega, ?_⟩
    clear hcenturies h
    by_cases hday : r = 365
    · obtain ⟨rfl, -⟩ := hleap hday
      omega
    · clear hleap
      omega
  have hcount : inEra - inEra / 1460 + inEra / 36524 - inEra / 146096 =
      365 * (100 * a + 4 * b + c) + (r - extra) := by
    rw [Int.add_sub_assoc, hcenturies, hyears, h]
    ring
  rw [hcount]
  clear hcount hcenturies hyears hleap h
  omega

/-- The year by the era of a day and the days since the era began. -/
theorem yearOf_of_era {era inEra day : Int} (hfirst : 0 ≤ inEra) (hlast : inEra < 146097)
    (hday : day + 719468 = 146097 * era + inEra) {yearOfEra dayOfYear : Int}
    (hyear : (inEra - inEra / 1460 + inEra / 36524 - inEra / 146096) / 365 = yearOfEra)
    (hrest : inEra - (365 * yearOfEra + yearOfEra / 4 - yearOfEra / 100) = dayOfYear) :
    yearOf day = 400 * era + yearOfEra + if 306 ≤ dayOfYear then 1 else 0 := by
  have hera : (day + 719468) / 146097 = era ∧ (day + 719468) % 146097 = inEra := by
    clear hyear hrest
    omega
  unfold yearOf
  dsimp only
  rw [hera.1, hera.2, hyear, hrest, Int.mul_comm era 400]

theorem exists_era (year : Int) : ∃ era a b c : Int, (0 ≤ a ∧ a ≤ 3) ∧ (0 ≤ b ∧ b ≤ 24) ∧
    (0 ≤ c ∧ c ≤ 3) ∧ year = 400 * era + (100 * a + 4 * b + c) :=
  ⟨year / 400, year % 400 / 100, year % 100 / 4, year % 4, by omega, by omega, by omega, by omega⟩

section Era

variable {era a b c : Int} (ha : 0 ≤ a ∧ a ≤ 3) (hb : 0 ≤ b ∧ b ≤ 24) (hc : 0 ≤ c ∧ c ≤ 3)

include ha hb hc

theorem marchDays_of_era : marchDays (400 * era + (100 * a + 4 * b + c)) =
    146097 * era + (36524 * a + 1461 * b + 365 * c) := by
  unfold marchDays
  omega

omit ha in
theorem wholeYears_of_era : 365 * (100 * a + 4 * b + c) + (100 * a + 4 * b + c) / 4 -
    (100 * a + 4 * b + c) / 100 = 36524 * a + 1461 * b + 365 * c := by
  omega

/-- A year that begins in March has 365 days, and one more if it ends with a leap day. -/
theorem marchDays_succ_of_era : marchDays (400 * era + (100 * a + 4 * b + c) + 1) =
    marchDays (400 * era + (100 * a + 4 * b + c)) + 365 +
      if c = 3 ∧ (b = 24 → a = 3) then 1 else 0 := by
  unfold marchDays
  split <;> omega

end Era

/-- The day `r` days after the first of March lies in that year or, from January on, in the next. -/
theorem yearOf_of_march (year r : Int) {day : Int} (hr : 0 ≤ r)
    (hnext : marchDays year + r < marchDays (year + 1)) (hday : day + 719468 = marchDays year + r) :
    yearOf day = year + if 306 ≤ r then 1 else 0 := by
  obtain ⟨era, a, b, c, ha, hb, hc, rfl⟩ := exists_era year
  rw [marchDays_succ_of_era ha hb hc] at hnext
  have hleap : r ≤ 365 ∧ (r = 365 → c = 3 ∧ (b = 24 → a = 3)) := by
    split at hnext
    · exact ⟨by omega, fun _ ↦ ‹_›⟩
    · exact ⟨by omega, by omega⟩
  rw [marchDays_of_era ha hb hc, Int.add_assoc] at hday
  obtain ⟨hlast, hleap⟩ := hleap
  have hinEra : 0 ≤ 36524 * a + 1461 * b + 365 * c + r ∧
      36524 * a + 1461 * b + 365 * c + r < 146097 := by
    clear hnext hleap hday
    omega
  refine yearOf_of_era hinEra.1 hinEra.2 hday (yearOfEra_eq ha hb hc ⟨hr, hlast⟩ hleap rfl) ?_
  rw [wholeYears_of_era hb hc, add_sub_cancel_left]

/-- A wall clock between the start of a year and that of the next is of a day of the year. -/
theorem yearOf_eq {year clock : Int} (hstart : yearStart year ≤ clock)
    (hnext : clock < yearStart (year + 1)) : yearOf (clock / 86400) = year := by
  rw [yearStart_eq] at hstart hnext
  have hyear : year + 1 - 1 = year := by omega
  rw [hyear] at hnext
  by_cases hmarch : clock / 86400 + 719468 < marchDays year
  · have hsame : year - 1 + 1 = year := by omega
    rw [yearOf_of_march (year - 1) (clock / 86400 + 719468 - marchDays (year - 1))
      (by omega) (by rw [hsame]; omega) (by omega), if_pos (by omega)]
    omega
  · have hlong := marchDays_lt (year + 1)
    rw [hyear] at hlong
    rw [yearOf_of_march year (clock / 86400 + 719468 - marchDays year)
      (by omega) (by omega) (by omega), if_neg (by omega)]
    omega

end Calendar

namespace DateTime

variable {t : DateTime}

/-- The wall clock of a date and time lies in its year. -/
theorem seconds_bounds (h : t.isValid = true) :
    Calendar.yearStart t.year ≤ t.seconds ∧ t.seconds < Calendar.yearStart (t.year + 1) := by
  have hday := day_le_of_isValid h
  simp only [isValid, Bool.and_eq_true, decide_eq_true_eq] at h
  have hbounds : Calendar.yearStart t.year ≤
      Calendar.dayNumber t.year t.month t.day * 86400 ∧ _ :=
    Calendar.dayNumber_bounds (by omega) (by omega) (by omega) hday
  unfold seconds
  omega

end DateTime

end Provenance

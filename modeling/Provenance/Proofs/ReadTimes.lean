import Provenance.Proofs.LocalTime
import Provenance.Proofs.WrittenTimes
import Provenance.Time.ZoneText

/-!
Times that are read from columns. A text reads as a time of the calendar or not at all
(`isValid_of_ofText?`). Which instant a zone picks for a time depends on the fraction of a second
only so far as it tells a leap second (`toEpoch_withNano`), so a time, its bound text and that text
with a fraction are read alike (`written_times_agree`), but for leap seconds within a minute, whose
bound text is that of the next second (`leap_second_read_later`). Every time has an instant but for
some of the first hour of the calendar: there an offset may lead out of the calendar, and so does
the hour before, which is tried next (`instant_unless_first_hour`).
-/

set_option autoImplicit false
set_option relaxedAutoImplicit false

namespace Provenance

open Calendar

variable {t : DateTime} {zone : Zone}

/-! ### Texts that are times -/

namespace DateTime

theorem isValid_of_checked {checked : DateTime}
    (h : (if checked.isValid then some checked else none) = some t) : t.isValid = true := by
  split at h
  · rename_i hvalid
    exact Option.some.inj h ▸ hvalid
  · cases h

theorem isValid_of_read? {text : List Char} (h : read? text = some t) : t.isValid = true := by
  unfold read? at h
  -- The fields and marks come before the check.
  iterate 11 obtain ⟨_, -, h⟩ := Option.bind_eq_some_iff.mp h
  exact isValid_of_checked h

/-- What is read as a time is one of the calendar. -/
theorem isValid_of_ofText? {text : String} (h : ofText? text = some t) : t.isValid = true :=
  isValid_of_read? h

theorem fractionField_digits {digits : List Char} (hsome : digits ≠ [])
    (hdigits : ∀ c ∈ digits, c.isDigit = true) :
    ∃ nano, fractionField ('.' :: digits) = some nano := by
  have hempty : digits.isEmpty = false := List.isEmpty_eq_false_iff.mpr hsome
  have hall : digits.all Char.isDigit = true := List.all_eq_true.mpr hdigits
  simp [fractionField, hempty, hall]

/-- The bound form of a time may be followed by a fraction of a second. -/
theorem ofText?_boundText_fraction (hvalid : t.isValid = true) {digits : List Char}
    (hsome : digits ≠ []) (hdigits : ∀ c ∈ digits, c.isDigit = true) :
    ∃ nano < 1000000000, ofText? (t.boundText ++ "." ++ String.ofList digits) =
      some { t.written with nano := t.written.nano + nano } := by
  obtain ⟨nano, hnano⟩ := fractionField_digits hsome hdigits
  have htext : (t.boundText ++ "." ++ String.ofList digits).toList =
      t.boundText.toList ++ '.' :: digits := by
    simp [String.toList_append]
  refine ⟨nano, fractionField_lt hnano, ?_⟩
  rw [ofText?, htext, read?_boundText_append hvalid, hnano, Option.map_some]

/-- The instant of a time is the same with any fraction of a second, or of its leap second. -/
theorem toEpoch_withNano (zone : Zone) {t : DateTime} {nano : Nat}
    (h : 1000000000 ≤ nano ↔ 1000000000 ≤ t.nano) :
    zone.toEpoch { t with nano } = zone.toEpoch t := by
  have hleap : isLeapSecond { t with nano } = t.isLeapSecond := decide_eq_decide.mpr h
  have hearlier : secondsAnHourEarlier { t with nano } = t.secondsAnHourEarlier := by
    rw [secondsAnHourEarlier, secondsAnHourEarlier, hleap]
    rfl
  rw [Zone.toEpoch, Zone.toEpoch, hearlier]
  rfl

/-- A time is shown as it is, without its fraction, unless it is a leap second within a minute. -/
theorem written_eq (h : t.isLeapSecond = false ∨ t.second = 59) :
    t.written = { t with nano := if t.isLeapSecond then 1000000000 else 0 } := by
  unfold written
  by_cases hleap : t.isLeapSecond = true
  · have hlast : t.second = 59 := h.resolve_left fun hshort ↦ by cases hleap.symm.trans hshort
    rw [if_pos hleap, if_pos hlast, if_pos hleap]
  · rw [if_neg hleap, if_neg hleap]

theorem nano_written (t : DateTime) : t.written.nano = 0 ∨ t.written.nano = 1000000000 := by
  unfold written
  repeat' split
  · exact .inr rfl
  · exact .inl rfl
  · exact .inl rfl

/-- The next second is shown for a leap second within a minute. -/
theorem seconds_written (t : DateTime) :
    t.written.seconds =
      t.seconds + if t.isLeapSecond = true ∧ t.second ≠ 59 then 1 else 0 := by
  by_cases hwithin : t.isLeapSecond = true ∧ t.second ≠ 59
  · rw [if_pos hwithin, written, if_pos hwithin.1, if_neg hwithin.2]
    unfold seconds
    dsimp only
    omega
  · have hsame : t.isLeapSecond = false ∨ t.second = 59 := by
      rw [not_and_or, Bool.not_eq_true, not_not] at hwithin
      exact hwithin
    rw [if_neg hwithin, written_eq hsame, Int.add_zero]
    rfl

/-- The time that is shown has the same instant with any fraction of a second. -/
theorem toEpoch_written_withNano (zone : Zone) (t : DateTime) {nano : Nat}
    (hnano : nano < 1000000000) :
    zone.toEpoch { t.written with nano := t.written.nano + nano } = zone.toEpoch t.written := by
  refine toEpoch_withNano zone ?_
  rcases t.nano_written with hwhole | hleap
  · rw [hwhole]
    omega
  · rw [hleap]
    omega

/-- A time has the instant of the time that is shown, unless it is a leap second within a minute. -/
theorem toEpoch_written (zone : Zone) (h : t.isLeapSecond = false ∨ t.second = 59) :
    zone.toEpoch t.written = zone.toEpoch t := by
  rw [written_eq h]
  refine toEpoch_withNano zone ?_
  by_cases hleap : t.isLeapSecond = true
  · rw [if_pos hleap]
    exact iff_of_true (le_refl _) (of_decide_eq_true hleap)
  · rw [if_neg hleap]
    exact iff_of_false (by decide) fun hlong ↦ hleap (decide_eq_true hlong)

end DateTime

namespace Value

/-- Values are read as the same instants if their times have the same instant in each zone. -/
theorem toEpoch_eq_of_asTimestamp {value other : Value} {t t' : DateTime}
    (hvalue : value.asTimestamp = some t) (hother : other.asTimestamp = some t') {reader : Reader}
    (hsame : reader.zone.toEpoch t = reader.zone.toEpoch t') :
    value.toEpoch reader = other.toEpoch reader := by
  simp only [toEpoch, hvalue, hother, hsame]

/-- A time of any year reads back from its bound text as the time that the text shows: in whole
seconds, and one second later for a leap second within a minute. Any digits after a point are read
with it, as the same instant in every zone. The time itself is read as this instant too, unless it
is such a leap second. -/
theorem written_times_agree (hvalid : t.isValid = true) {digits : List Char} (hsome : digits ≠ [])
    (hdigits : ∀ c ∈ digits, c.isDigit = true) :
    ∃ text, (timestamp t).bound = .text text ∧
      (Value.text text).asTimestamp = some t.written ∧
      (t.isLeapSecond = false ∨ t.second = 59 →
        t.written = { t with nano := if t.isLeapSecond then 1000000000 else 0 }) ∧
      t.written.seconds = t.seconds + (if t.isLeapSecond = true ∧ t.second ≠ 59 then 1 else 0) ∧
      (∃ nano < 1000000000, (Value.text (text ++ "." ++ String.ofList digits)).asTimestamp =
        some { t.written with nano := t.written.nano + nano }) ∧
      ∀ reader epoch,
        ((Value.text (text ++ "." ++ String.ofList digits)).toEpoch reader = .ok epoch ↔
          (Value.text text).toEpoch reader = .ok epoch) ∧
        (t.isLeapSecond = false ∨ t.second = 59 →
          ((timestamp t).toEpoch reader = .ok epoch ↔
            (Value.text text).toEpoch reader = .ok epoch)) := by
  have hwhole : (Value.text t.boundText).asTimestamp = some t.written :=
    DateTime.ofText?_boundText hvalid
  obtain ⟨nano, hnano, htext⟩ := DateTime.ofText?_boundText_fraction hvalid hsome hdigits
  have hfraction : (Value.text (t.boundText ++ "." ++ String.ofList digits)).asTimestamp =
      some { t.written with nano := t.written.nano + nano } := htext
  refine ⟨t.boundText, rfl, hwhole, DateTime.written_eq, t.seconds_written,
    ⟨nano, hnano, hfraction⟩, fun reader epoch ↦ ⟨?_, fun hsame ↦ ?_⟩⟩
  · rw [toEpoch_eq_of_asTimestamp hfraction hwhole (t.toEpoch_written_withNano _ hnano)]
  · have hnative : (timestamp t).asTimestamp = some t := rfl
    rw [toEpoch_eq_of_asTimestamp hnative hwhole (DateTime.toEpoch_written _ hsame).symm]

/-- A leap second long before the year 0, with a fraction of its own. -/
theorem early_leap_second_agrees :
    let t : DateTime := ⟨-12345, 6, 30, 23, 59, 59, 1999999999⟩
    (Value.text "-12345-06-30 23:59:60").asTimestamp = some { t with nano := 1000000000 } ∧
      ∀ reader epoch, (Value.text "-12345-06-30 23:59:60.25").toEpoch reader = .ok epoch ↔
        (timestamp t).toEpoch reader = .ok epoch := by
  intro t
  obtain ⟨text, htext, hwhole, hwritten, -, -, hread⟩ :=
    written_times_agree (by decide : t.isValid = true) (List.cons_ne_nil '2' ['5'])
      (List.all_eq_true.mp rfl)
  have hbound : (timestamp t).bound = .text "-12345-06-30 23:59:60" := congrArg Value.text
    (String.toList_inj.mp ((DateTime.toList_boundText t).trans (by decide)))
  obtain rfl := Value.text.inj (htext.symm.trans hbound)
  rw [hwritten (.inr rfl)] at hwhole
  exact ⟨hwhole, fun reader epoch ↦
    (hread reader epoch).1.trans ((hread reader epoch).2 (.inr rfl)).symm⟩

/-- A leap second within a minute is bound as the next second, and the text is read one second later
than the time itself. Five hours east of Greenwich the first half hour of the calendar is read as no
instant at all. -/
theorem leap_second_read_later :
    let t : DateTime := ⟨2015, 6, 30, 23, 56, 4, 1333333333⟩
    let reader : Reader := ⟨4095, Zone.utc⟩
    t.isValid = true ∧ (timestamp t).bound = .text "2015-06-30 23:56:05" ∧
      (text "2015-06-30 23:56:05").asTimestamp = some ⟨2015, 6, 30, 23, 56, 5, 0⟩ ∧
      (timestamp t).toEpoch reader = .ok 1435708564 ∧
      (text "2015-06-30 23:56:05").toEpoch reader = .ok 1435708565 ∧
      (timestamp ⟨-262143, 1, 1, 0, 30, 0, 0⟩).toEpoch ⟨4095, Zone.ofText "AAA-5"⟩ =
        .error .calendarUnderflow := by
  intro t reader
  have hbound : (timestamp t).bound = .text "2015-06-30 23:56:05" := congrArg Value.text
    (String.toList_inj.mp ((DateTime.toList_boundText t).trans (by decide)))
  exact ⟨by decide, hbound, by decide +kernel, by decide +kernel, by decide +kernel,
    by decide +kernel⟩

end Value

/-! ### Times without an instant -/

/-- The offsets at which a wall clock is shown. -/
def Shown.offsets : Shown → List Int
  | once offset => [offset]
  | twice first second => [first, second]
  | never => []

theorem Shown.offsets_ite {P : Int → Prop} {c : Prop} [Decidable c] {yes no : Shown}
    (hyes : ∀ offset ∈ yes.offsets, P offset) (hno : ∀ offset ∈ no.offsets, P offset) :
    ∀ offset ∈ (if c then yes else no).offsets, P offset := by
  split
  · exact hyes
  · exact hno

namespace Zone

/-- All offsets of the zone are less than a day. -/
structure IsNarrow (zone : Zone) : Prop where
  standard : -86400 < zone.standard ∧ zone.standard < 86400
  daylight : ∀ daylight ∈ zone.daylight, -86400 < daylight.offset ∧ daylight.offset < 86400

theorem mem_offsets_classify (zone : Zone) (year clock : Int) :
    ∀ offset ∈ (zone.classify year clock).offsets,
      offset = zone.standard ∨ ∃ daylight ∈ zone.daylight, offset = daylight.offset := by
  unfold classify
  cases hzone : zone.daylight with
  | none => exact fun offset h ↦ .inl (List.mem_singleton.mp h)
  | some daylight =>
    dsimp only
    repeat' apply Shown.offsets_ite
    all_goals simp [Shown.offsets]

theorem IsNarrow.offset_bounds (h : zone.IsNarrow) {year clock offset : Int}
    (hoffset : offset ∈ (zone.classify year clock).offsets) : -86400 < offset ∧ offset < 86400 := by
  rcases mem_offsets_classify zone year clock offset hoffset with rfl | ⟨daylight, hzone, rfl⟩
  · exact h.standard
  · exact h.daylight daylight hzone

/-- No instant of the calendar shows a wall clock if it is never shown or one of its offsets leads
out of the calendar. -/
theorem instants_eq_nil_iff (zone : Zone) (year clock : Int) :
    zone.instants year clock = [] ↔ (zone.classify year clock).offsets = [] ∨
      ∃ offset ∈ (zone.classify year clock).offsets, holds (clock - offset) = false := by
  unfold instants
  cases zone.classify year clock with
  | never => simp [Shown.offsets]
  | once offset => cases hholds : holds (clock - offset) <;> simp [Shown.offsets, instant?, hholds]
  | twice first second =>
    cases hfirst : holds (clock - first) <;> cases hsecond : holds (clock - second) <;>
      simp [Shown.offsets, instant?, hfirst, hsecond]

/-- The time is in the first hour of the calendar, and the zone does not show it at an instant of
the calendar by each of its offsets. -/
def LacksInstant (zone : Zone) (t : DateTime) : Prop :=
  t.secondsAnHourEarlier < firstSecond ∧
    ((zone.classify t.year t.seconds).offsets = [] ∨
      ∃ offset ∈ (zone.classify t.year t.seconds).offsets, t.seconds - offset < firstSecond)

theorem firstSecond_le_seconds (hvalid : t.isValid = true) :
    firstSecond ≤ t.seconds ∧ t.seconds ≤ lastSecond := by
  obtain ⟨hyear, hnext⟩ := DateTime.seconds_bounds hvalid
  simp only [DateTime.isValid, Bool.and_eq_true, decide_eq_true_eq] at hvalid
  have hfirst : firstSecond = yearStart firstYear := rfl
  have hlast : lastSecond + 1 = yearStart (lastYear + 1) := by decide
  have hstart : yearStart firstYear ≤ yearStart t.year := yearStart_mono (by omega)
  have hend : yearStart (t.year + 1) ≤ yearStart (lastYear + 1) := yearStart_mono (by omega)
  omega

theorem toEpoch_eq_none (zone : Zone) (t : DateTime) : zone.toEpoch t = none ↔
    zone.instants t.year t.seconds = [] ∧ holds t.secondsAnHourEarlier = false := by
  unfold toEpoch
  cases hinstants : (zone.instants t.year t.seconds).getLast? with
  | some instant =>
    have hsome : zone.instants t.year t.seconds ≠ [] := fun hnil ↦ by simp [hnil] at hinstants
    simp [hsome]
  | none =>
    have hnil := List.getLast?_eq_none_iff.mp hinstants
    dsimp only
    cases hholds : holds t.secondsAnHourEarlier with
    | false => exact iff_of_true (if_neg Bool.false_ne_true) ⟨hnil, rfl⟩
    | true =>
      rw [if_pos rfl]
      split <;> simp

/-- There is no instant for a time of the first hour if one of the offsets leads out of the calendar
or the time is skipped: the hour before is no help, for it is before the calendar too. -/
theorem toEpoch_eq_none_iff (hzone : zone.IsNarrow) (hvalid : t.isValid = true) :
    zone.toEpoch t = none ↔ zone.LacksInstant t := by
  obtain ⟨hfirst, hlast⟩ := firstSecond_le_seconds hvalid
  obtain ⟨hlow, hhigh⟩ := hourEarlier_bounds t
  have hhour : holds t.secondsAnHourEarlier = false ↔ t.secondsAnHourEarlier < firstSecond := by
    simp only [holds, Bool.and_eq_false_iff, decide_eq_false_iff_not]
    omega
  have hlong : firstSecond + 2 * 86400 ≤ lastSecond := by decide
  rw [toEpoch_eq_none, instants_eq_nil_iff, hhour, and_comm, LacksInstant]
  refine and_congr_right fun hbefore ↦ or_congr_right (exists_congr fun offset ↦
    and_congr_right fun hoffset ↦ ?_)
  have hbounds := hzone.offset_bounds hoffset
  simp only [holds, Bool.and_eq_false_iff, decide_eq_false_iff_not]
  omega

end Zone

namespace Value

/-- Reading a time gives an instant for all zones and all times, or texts that are read as times,
but for a part of the first hour of the calendar, and there the calendar underflows. -/
theorem instant_unless_first_hour {reader : Reader} (hzone : reader.zone.IsNarrow) :
    (∀ content, (text content).asTimestamp = some t → t.isValid = true) ∧
      ∀ value : Value, value.asTimestamp = some t → t.isValid = true →
        ((∃ epoch, value.toEpoch reader = .ok epoch) ↔ ¬reader.zone.LacksInstant t) ∧
        (reader.zone.LacksInstant t → value.toEpoch reader = .error .calendarUnderflow) := by
  refine ⟨fun content ↦ DateTime.isValid_of_ofText?, fun value hvalue hvalid ↦ ?_⟩
  have hnone := Zone.toEpoch_eq_none_iff hzone hvalid
  cases hepoch : reader.zone.toEpoch t with
  | none =>
    have hlacks := hnone.mp hepoch
    have hfails : value.toEpoch reader = .error .calendarUnderflow := by
      simp only [toEpoch, hvalue, hepoch]
    have hread : ¬∃ epoch, value.toEpoch reader = .ok epoch := by
      rintro ⟨epoch, hok⟩
      cases hfails.symm.trans hok
    exact ⟨iff_of_false hread (not_not.mpr hlacks), fun _ ↦ hfails⟩
  | some epoch =>
    have hread : value.toEpoch reader = .ok epoch := by
      simp only [toEpoch, hvalue, hepoch]
    have hhas : ¬reader.zone.LacksInstant t := fun hlacks ↦ by
      cases (hnone.mpr hlacks).symm.trans hepoch
    exact ⟨iff_of_true ⟨epoch, hread⟩ hhas, fun hlacks ↦ (hhas hlacks).elim⟩

/-- The last second of the first hour can be read five hours west of Greenwich. -/
theorem first_hour_ends_west :
    let zone := Zone.ofText "AAA5"
    let reader : Reader := ⟨4095, zone⟩
    let t : DateTime := ⟨-262143, 1, 1, 0, 59, 59, 0⟩
    zone.IsNarrow ∧ (text "-262143-01-01 00:59:59").asTimestamp = some t ∧
      ∃ epoch, (text "-262143-01-01 00:59:59").toEpoch reader = .ok epoch := by
  intro zone reader t
  have hzone : reader.zone.IsNarrow := ⟨by decide +kernel, by decide +kernel⟩
  have hread : (text "-262143-01-01 00:59:59").asTimestamp = some t := by decide +kernel
  obtain ⟨hvalid, hall⟩ := instant_unless_first_hour (t := t) hzone
  have hhas : ¬zone.LacksInstant t := by
    have hoffsets : (zone.classify t.year t.seconds).offsets = [-18000] := by decide +kernel
    rintro ⟨-, hnil | ⟨offset, hoffset, hbefore⟩⟩
    · rw [hoffsets] at hnil
      cases hnil
    · rw [hoffsets, List.mem_singleton] at hoffset
      subst hoffset
      exact absurd hbefore (by decide +kernel)
  exact ⟨hzone, hread, (hall _ hread (hvalid _ hread)).1.mpr hhas⟩

/-- Five hours east of Greenwich the first half hour of the calendar is a time, but its instant and
the hour before it are not in the calendar. -/
theorem first_half_hour_lost_east :
    let zone := Zone.ofText "AAA-5"
    let t : DateTime := ⟨-262143, 1, 1, 0, 30, 0, 0⟩
    zone.IsNarrow ∧ t.isValid = true ∧ (text "-262143-01-01 00:30:00").asTimestamp = some t ∧
      (text "-262143-01-01 00:30:00").toEpoch ⟨4095, zone⟩ = .error .calendarUnderflow :=
  ⟨⟨by decide +kernel, by decide +kernel⟩, by decide, by decide +kernel, by decide +kernel⟩

end Value

end Provenance

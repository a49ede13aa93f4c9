import Mathlib.Algebra.Group.Nat.Defs
import Mathlib.Data.List.Induction
import Provenance.Store.Affinity

/-!
Times as a store writes and reads them. The bound form of a time reads back as the time that it
shows, whatever its year, and a fraction of a second that stands after it is read as well
(`read?_boundText_append`, `ofText?_boundText`). Of the years 0 to 9999, a numeric column leaves it
the text that it is (`IsClock.inNumericColumn`), and every zone has an instant for it
(`IsClock.exists_epoch`).
-/

set_option autoImplicit false
set_option relaxedAutoImplicit false

namespace Provenance

namespace DateTime

variable {width n : Nat} {rest : List Char}

/-! ### Padded numbers -/

theorem toList_padded (width n : Nat) :
    (padded width n).toList =
      List.replicate (width - (Nat.toDigits 10 n).length) '0' ++ Nat.toDigits 10 n := by
  rw [padded, String.toList_ofList]

theorem isDigit_of_mem_padded {c : Char} (h : c ∈ (padded width n).toList) : c.isDigit = true := by
  rw [toList_padded, List.mem_append] at h
  rcases h with hzero | hdigit
  · rw [List.eq_of_mem_replicate hzero]
    decide
  · exact Nat.isDigit_of_mem_toDigits (by omega) (by omega) hdigit

theorem length_padded (hwidth : 0 < width) (hn : n < 10 ^ width) :
    (padded width n).toList.length = width := by
  have hlength : (Nat.toDigits 10 n).length ≤ width :=
    (Nat.length_toDigits_le_iff (by omega) hwidth).mpr hn
  rw [toList_padded, List.length_append, List.length_replicate]
  omega

theorem natOf_padded (width n : Nat) : Numeral.natOf (padded width n).toList = n := by
  have hfold : ∀ digits, Numeral.natOf digits = Nat.ofDigitChars 10 digits 0 := fun digits ↦
    Nat.ofDigitChars_eq_foldl.symm
  rw [hfold, toList_padded, Nat.ofDigitChars_append, Nat.ofDigitChars_replicate_zero, Nat.mul_zero,
    Nat.ofDigitChars_ten_toDigits]

/-- A padded number starts with a digit. -/
theorem exists_padded_eq_cons (width n : Nat) :
    ∃ c digits, (padded width n).toList = c :: digits ∧ c.isDigit = true := by
  have hne : (padded width n).toList ≠ [] := by
    rw [toList_padded]
    exact List.append_ne_nil_of_right_ne_nil _ Nat.toDigits_ne_nil
  obtain ⟨c, digits, hcons⟩ := List.exists_cons_of_ne_nil hne
  exact ⟨c, digits, hcons, isDigit_of_mem_padded (hcons ▸ List.mem_cons_self)⟩

theorem takeWhile_padded (width n : Nat) (rest : List Char) :
    ((padded width n).toList ++ rest).takeWhile Char.isDigit =
      (padded width n).toList ++ rest.takeWhile Char.isDigit :=
  List.takeWhile_append_of_pos fun _ ↦ isDigit_of_mem_padded

theorem dropWhile_padded (width n : Nat) (rest : List Char) :
    ((padded width n).toList ++ rest).dropWhile Char.isDigit = rest.dropWhile Char.isDigit :=
  List.dropWhile_append_of_pos fun _ ↦ isDigit_of_mem_padded

theorem digits_padded (hwidth : 0 < width) (hn : n < 10 ^ width) (rest : List Char) :
    digits (some width) ((padded width n).toList ++ rest) = some (n, rest) := by
  have hlength := length_padded hwidth hn
  have htaken : ((padded width n).toList ++ rest.takeWhile Char.isDigit).take width =
      (padded width n).toList := by
    rw [List.take_append_of_le_length (Nat.le_of_eq hlength.symm)]
    exact List.take_of_length_le (Nat.le_of_eq hlength)
  have hdropped : ((padded width n).toList ++ rest).drop width = rest :=
    List.drop_left' hlength
  have hempty : (padded width n).toList.isEmpty = false := by
    rw [List.isEmpty_eq_false_iff, ← List.length_pos_iff, hlength]
    exact hwidth
  simp only [digits, takeWhile_padded, htaken, hempty, Bool.false_eq_true, if_false, natOf_padded,
    hlength, hdropped]

/-! ### Reading what has been written -/

theorem not_isBlank_of_isDigit {c : Char} (h : c.isDigit = true) : Text.isBlank c = false := by
  have hrange : 48 ≤ c.toNat ∧ c.toNat ≤ 57 := by
    simpa [Char.isDigit, UInt32.le_iff_toNat_le] using h
  simp only [Text.isBlank, Bool.or_eq_false_iff, Bool.and_eq_false_iff, decide_eq_false_iff_not,
    beq_eq_false_iff_ne, ne_eq]
  omega

theorem skipBlanks_padded (width n : Nat) (rest : List Char) :
    Text.skipBlanks ((padded width n).toList ++ rest) = (padded width n).toList ++ rest := by
  obtain ⟨c, digits, hcons, hdigit⟩ := exists_padded_eq_cons width n
  rw [hcons, List.cons_append, Text.skipBlanks, List.dropWhile_cons,
    not_isBlank_of_isDigit hdigit]
  rfl

theorem field_padded (hn : n < 100) (rest : List Char) :
    field ((padded 2 n).toList ++ rest) = some (n, rest) := by
  rw [field, skipBlanks_padded, digits_padded (by omega) hn]

theorem field_blank_padded (hn : n < 100) (rest : List Char) :
    field (' ' :: ((padded 2 n).toList ++ rest)) = some (n, rest) := by
  have hskip : Text.skipBlanks (' ' :: ((padded 2 n).toList ++ rest)) =
      Text.skipBlanks ((padded 2 n).toList ++ rest) := List.dropWhile_cons_of_pos (by decide)
  rw [field, hskip, skipBlanks_padded, digits_padded (by omega) hn]

/-- A number of any length ends where the digits do. -/
theorem digits_none_padded (width n : Nat) (hrest : rest.takeWhile Char.isDigit = []) :
    digits none ((padded width n).toList ++ rest) = some (n, rest) := by
  have hempty : (padded width n).toList.isEmpty = false := by
    obtain ⟨c, more, hcons, -⟩ := exists_padded_eq_cons width n
    rw [hcons, List.isEmpty_cons]
  simp only [digits, takeWhile_padded, hrest, List.append_nil, hempty, Bool.false_eq_true, if_false,
    natOf_padded, List.drop_left']

theorem yearField_padded (hn : n < 10000) (rest : List Char) :
    yearField ((padded 4 n).toList ++ rest) = some ((n : Int), rest) := by
  have hdigits : digits (some 4) ((padded 4 n).toList ++ rest) = some (n, rest) :=
    digits_padded (by omega) hn rest
  obtain ⟨c, more, hcons, hdigit⟩ := exists_padded_eq_cons 4 n
  rw [hcons, List.cons_append] at hdigits
  have hskip := skipBlanks_padded 4 n rest
  rw [hcons, List.cons_append] at hskip
  rw [hcons, List.cons_append, yearField, hskip]
  split
  · rename_i heq
    rw [(List.cons.inj heq).1] at hdigit
    cases hdigit
  · rename_i heq
    rw [(List.cons.inj heq).1] at hdigit
    cases hdigit
  · rw [hdigits]
    rfl

theorem yearText_eq_padded {year : Int} (hfirst : 0 ≤ year) (hlast : year ≤ 9999) :
    yearText year = padded 4 year.toNat := by
  rw [yearText, if_pos ⟨hfirst, hlast⟩]

theorem yearField_minus (n : Nat) (hrest : rest.takeWhile Char.isDigit = []) :
    yearField ('-' :: ((padded 4 n).toList ++ rest)) = some (-(n : Int), rest) := by
  have hread : yearField ('-' :: ((padded 4 n).toList ++ rest)) =
      (digits none ((padded 4 n).toList ++ rest)).map
        fun read ↦ (-(read.1 : Int), read.2) := rfl
  rw [hread, digits_none_padded 4 n hrest, Option.map_some]

theorem yearField_plus (n : Nat) (hrest : rest.takeWhile Char.isDigit = []) :
    yearField ('+' :: ((padded 4 n).toList ++ rest)) = some ((n : Int), rest) := by
  have hread : yearField ('+' :: ((padded 4 n).toList ++ rest)) =
      (digits none ((padded 4 n).toList ++ rest)).map
        fun read ↦ ((read.1 : Int), read.2) := rfl
  rw [hread, digits_none_padded 4 n hrest, Option.map_some]

/-- A year reads back, with a sign or without one, if no digit follows it. -/
theorem yearField_yearText (year : Int) (hrest : rest.takeWhile Char.isDigit = []) :
    yearField ((yearText year).toList ++ rest) = some (year, rest) := by
  by_cases hplain : 0 ≤ year ∧ year ≤ 9999
  · rw [yearText_eq_padded hplain.1 hplain.2, yearField_padded (by omega),
      Int.toNat_of_nonneg hplain.1]
  · rw [yearText, if_neg hplain]
    by_cases hnegative : year < 0
    · have hsame : -(year.natAbs : Int) = year := by omega
      have hsign : ("-" : String).toList = ['-'] := rfl
      rw [if_pos hnegative, String.toList_append, hsign, List.append_assoc, List.singleton_append,
        yearField_minus year.natAbs hrest, hsame]
    · have hsame : (year.natAbs : Int) = year := by omega
      have hsign : ("+" : String).toList = ['+'] := rfl
      rw [if_neg hnegative, String.toList_append, hsign, List.append_assoc, List.singleton_append,
        yearField_plus year.natAbs hrest, hsame]

theorem toList_boundText (t : DateTime) :
    t.boundText.toList = (yearText t.year).toList ++ ('-' :: ((padded 2 t.month).toList ++
      ('-' :: ((padded 2 t.day).toList ++ (' ' :: (padded 2 t.hour).toList ++
        (':' :: ((padded 2 t.minute).toList ++
          (':' :: (padded 2 (t.second + t.nano / 1000000000)).toList)))))))) := by
  rw [boundText, dateText, clockText]
  simp only [String.toList_append]
  simp

theorem day_le_of_isValid {t : DateTime} (h : t.isValid = true) : t.day ≤ 31 := by
  have hlength : Calendar.monthLength t.year t.month ≤ 31 := by
    unfold Calendar.monthLength
    split
    · split <;> omega
    all_goals omega
  simp only [isValid, Bool.and_eq_true, decide_eq_true_eq] at h
  omega

/-- The time that is shown is in the same minute. -/
theorem year_written (t : DateTime) : t.written.year = t.year := by
  unfold written
  repeat' split
  all_goals rfl

/-- With a fraction of a second the time that is shown is one of the calendar. -/
theorem isValid_written_withNano {t : DateTime} (h : t.isValid = true) {nano : Nat}
    (hnano : nano < 1000000000) :
    isValid { t.written with nano := t.written.nano + nano } = true := by
  simp only [isValid, Bool.and_eq_true, decide_eq_true_eq] at h ⊢
  unfold written
  by_cases hleap : t.isLeapSecond = true
  · by_cases hlast : t.second = 59
    · rw [if_pos hleap, if_pos hlast]
      dsimp only
      omega
    · rw [if_pos hleap, if_neg hlast]
      dsimp only
      omega
  · rw [if_neg hleap]
    dsimp only
    omega

theorem isValid_written {t : DateTime} (h : t.isValid = true) : t.written.isValid = true :=
  isValid_written_withNano h (by decide : 0 < 1000000000)

/-- What is read of the number that stands for a second. -/
theorem read_shown {t : DateTime} (h : t.isValid = true) (nano : Nat) :
    (if t.second + t.nano / 1000000000 = 60 then
        ⟨t.year, t.month, t.day, t.hour, t.minute, 59, 1000000000 + nano⟩
      else
        ⟨t.year, t.month, t.day, t.hour, t.minute, t.second + t.nano / 1000000000, nano⟩) =
      ({ t.written with nano := t.written.nano + nano } : DateTime) := by
  simp only [isValid, Bool.and_eq_true, decide_eq_true_eq] at h
  unfold written
  by_cases hleap : t.isLeapSecond = true
  · have hnext : t.nano / 1000000000 = 1 := by
      have hlong : 1000000000 ≤ t.nano := of_decide_eq_true hleap
      omega
    rw [hnext, if_pos hleap]
    by_cases hlast : t.second = 59
    · rw [if_pos hlast, if_pos (by omega), hlast]
    · rw [if_neg hlast, if_neg (by omega), Nat.zero_add]
  · have hsame : t.nano / 1000000000 = 0 := by
      have hshort : ¬1000000000 ≤ t.nano := fun hlong ↦ hleap (decide_eq_true hlong)
      omega
    rw [hsame, if_neg hleap, if_neg (by omega), Nat.add_zero, Nat.zero_add]

theorem natOf_lt {digits : List Char} (h : ∀ c ∈ digits, c.isDigit = true) :
    Numeral.natOf digits < 10 ^ digits.length := by
  induction digits using List.reverseRecOn with
  | nil => exact Nat.one_pos
  | append_singleton digits c ih =>
    have hrange : 48 ≤ c.toNat ∧ c.toNat ≤ 57 := by
      simpa [Char.isDigit, UInt32.le_iff_toNat_le] using h c (by simp)
    have hlast : Numeral.natOf (digits ++ [c]) = 10 * Numeral.natOf digits + (c.toNat - 48) := by
      rw [Numeral.natOf, List.foldl_append]
      rfl
    have hdigits := ih fun c hc ↦ h c (List.mem_append_left _ hc)
    rw [hlast, List.length_append, List.length_singleton, Nat.pow_succ]
    omega

/-- A fraction is less than a second. -/
theorem fractionField_lt {text : List Char} {nano : Nat} (h : fractionField text = some nano) :
    nano < 1000000000 := by
  unfold fractionField at h
  split at h
  · cases h
    decide
  · rename_i rest
    split at h
    · cases h
    · rename_i hdigits
      rw [Bool.or_eq_true, Bool.not_eq_true', not_or, Bool.not_eq_false,
        List.all_eq_true] at hdigits
      obtain rfl := Option.some.inj h
      have hlength : (rest.take 9).length ≤ 9 := List.length_take_le 9 rest
      have hnumber : Numeral.natOf (rest.take 9) < 10 ^ (rest.take 9).length :=
        natOf_lt fun c hc ↦ hdigits.2 c (List.mem_of_mem_take hc)
      calc Numeral.natOf (rest.take 9) * tenTo (9 - (rest.take 9).length)
          < 10 ^ (rest.take 9).length * tenTo (9 - (rest.take 9).length) :=
            Nat.mul_lt_mul_of_pos_right hnumber (tenTo_pos _)
        _ = 10 ^ ((rest.take 9).length + (9 - (rest.take 9).length)) := (Nat.pow_add 10 _ _).symm
        _ = 10 ^ 9 := by rw [Nat.add_sub_cancel' hlength]
  · cases h

/-- The bound form of a time is read as the time that it shows, with the fraction of a second that
follows. -/
theorem read?_boundText_append {t : DateTime} (hvalid : t.isValid = true) (rest : List Char) :
    read? (t.boundText.toList ++ rest) =
      (fractionField rest).map fun nano ↦ { t.written with nano := t.written.nano + nano } := by
  have hdash : ∀ more, ('-' :: more).takeWhile Char.isDigit = [] := fun _ ↦ rfl
  have hday := day_le_of_isValid hvalid
  have hfields := hvalid
  simp only [isValid, Bool.and_eq_true, decide_eq_true_eq] at hfields
  rw [toList_boundText, read?]
  simp only [List.append_assoc, List.cons_append, yearField_yearText _ (hdash _), mark, if_true,
    field_padded (show t.month < 100 by omega), field_padded (show t.day < 100 by omega),
    field_blank_padded (show t.hour < 100 by omega), field_padded (show t.minute < 100 by omega),
    field_padded (show t.second + t.nano / 1000000000 < 100 by omega), Option.bind_eq_bind,
    Option.bind_some]
  cases hfraction : fractionField rest with
  | none => rfl
  | some nano =>
    rw [Option.bind_some, read_shown hvalid nano,
      if_pos (isValid_written_withNano hvalid (fractionField_lt hfraction)), Option.map_some]

/-- The bound form of a time reads back as the time that it shows. -/
theorem ofText?_boundText {t : DateTime} (hvalid : t.isValid = true) :
    ofText? t.boundText = some t.written := by
  have hread := read?_boundText_append hvalid []
  rw [List.append_nil] at hread
  exact hread

/-! ### A text that is no number -/

theorem not_isSpace_of_isDigit {c : Char} (h : c.isDigit = true) : Value.isSpace c = false := by
  have hrange : 48 ≤ c.toNat ∧ c.toNat ≤ 57 := by
    simpa [Char.isDigit, UInt32.le_iff_toNat_le] using h
  have hblank : c ≠ ' ' := by
    rintro rfl
    cases h
  simp only [Value.isSpace, Bool.or_eq_false_iff, Bool.and_eq_false_iff, decide_eq_false_iff_not,
    beq_eq_false_iff_ne, ne_eq]
  exact ⟨hblank, by omega⟩

theorem sign_padded (width n : Nat) (rest : List Char) :
    Numeral.sign ((padded width n).toList ++ rest) = (false, (padded width n).toList ++ rest) := by
  obtain ⟨c, digits, hcons, hdigit⟩ := exists_padded_eq_cons width n
  rw [hcons, List.cons_append]
  unfold Numeral.sign
  split
  · rename_i heq
    rw [(List.cons.inj heq).1] at hdigit
    cases hdigit
  · rename_i heq
    rw [(List.cons.inj heq).1] at hdigit
    cases hdigit
  · rfl

/-- A number that is followed by a dash is the longest that the text starts with. -/
theorem scan_padded_dash (width n : Nat) (rest : List Char) :
    Numeral.scan ((padded width n).toList ++ '-' :: rest) =
      some (⟨false, (padded width n).toList, none, none⟩, '-' :: rest) := by
  have hempty : (padded width n).toList.isEmpty = false := by
    obtain ⟨c, digits, hcons, -⟩ := exists_padded_eq_cons width n
    rw [hcons, List.isEmpty_cons]
  have htake : ('-' :: rest).takeWhile Char.isDigit = [] := rfl
  have hdrop : ('-' :: rest).dropWhile Char.isDigit = '-' :: rest := rfl
  simp only [Numeral.scan, sign_padded, takeWhile_padded, dropWhile_padded, htake, hdrop,
    List.append_nil, hempty, Bool.false_and, Bool.false_eq_true, if_false]
  rfl

theorem numberOf?_boundText {t : DateTime} (hfirst : 0 ≤ t.year) (hlast : t.year ≤ 9999) :
    Value.numberOf? t.boundText = none := by
  have hskip : ∀ rest, ((padded 4 t.year.toNat).toList ++ rest).dropWhile Value.isSpace =
      (padded 4 t.year.toNat).toList ++ rest := by
    intro rest
    obtain ⟨c, digits, hcons, hdigit⟩ := exists_padded_eq_cons 4 t.year.toNat
    rw [hcons, List.cons_append, List.dropWhile_cons, not_isSpace_of_isDigit hdigit]
    rfl
  have hdash : ∀ rest, ('-' :: rest).all Value.isSpace = false := fun _ ↦ rfl
  rw [Value.numberOf?, toList_boundText, yearText_eq_padded hfirst hlast, hskip, scan_padded_dash]
  simp only [hdash, Bool.false_eq_true, if_false]

/-! ### Instants -/

/-- Every zone has an instant for a wall clock of these years. -/
theorem exists_toEpoch {t : DateTime} (hvalid : t.isValid = true) (hfirst : 0 ≤ t.year)
    (hlast : t.year ≤ 9999) (zone : Zone) : ∃ epoch, zone.toEpoch t = some epoch := by
  have hday := day_le_of_isValid hvalid
  simp only [isValid, Bool.and_eq_true, decide_eq_true_eq] at hvalid
  have hholds : Calendar.holds t.secondsAnHourEarlier = true := by
    have hstart : Calendar.firstSecond = -8334601228800 := by decide
    have hend : Calendar.lastSecond = 8210266876799 := by decide
    have hbounds : -800000 ≤ Calendar.dayNumber t.year t.month t.day ∧
        Calendar.dayNumber t.year t.month t.day ≤ 3000000 := by
      unfold Calendar.dayNumber
      dsimp only
      split <;> omega
    simp only [Calendar.holds, hstart, hend, secondsAnHourEarlier, seconds, Bool.and_eq_true,
      decide_eq_true_eq]
    split <;> omega
  unfold Zone.toEpoch
  split
  · exact ⟨_, rfl⟩
  · simp only [hholds, if_true]
    split
    · exact ⟨_, rfl⟩
    · exact ⟨_, rfl⟩

end DateTime

/-! ### What a clock shows -/

namespace Value

/-- The value is the text of a time of the years 0 to 9999, as a clock shows it. -/
def IsClock (value : Value) : Prop :=
  ∃ t : DateTime, t.isValid = true ∧ 0 ≤ t.year ∧ t.year ≤ 9999 ∧ value = .text t.boundText

variable {value : Value}

theorem IsClock.isNull (h : value.IsClock) : value.isNull = false := by
  obtain ⟨t, -, -, -, rfl⟩ := h
  rfl

theorem IsClock.isGarbled (h : value.IsClock) : value.isGarbled = false := by
  obtain ⟨t, -, -, -, rfl⟩ := h
  rfl

/-- A numeric column holds the text as it is. -/
theorem IsClock.inNumericColumn (h : value.IsClock) : value.inNumericColumn = value := by
  obtain ⟨t, -, hfirst, hlast, rfl⟩ := h
  rw [Value.inNumericColumn, DateTime.numberOf?_boundText hfirst hlast, Option.getD_none]

/-- The text reads as an instant of each zone, whatever else the reader is like. -/
theorem IsClock.exists_epochs (h : value.IsClock) :
    ∃ epoch : Zone → Int, ∀ reader, value.toEpoch reader = .ok (epoch reader.zone) := by
  obtain ⟨t, hvalid, hfirst, hlast, rfl⟩ := h
  rw [← t.year_written] at hfirst hlast
  obtain ⟨epoch, hepoch⟩ := Classical.skolem.mp
    (DateTime.exists_toEpoch (DateTime.isValid_written hvalid) hfirst hlast)
  have htime : (Value.text t.boundText).asTimestamp = some t.written :=
    DateTime.ofText?_boundText hvalid
  exact ⟨epoch, fun reader ↦ by simp only [Value.toEpoch, htime, hepoch]⟩

theorem IsClock.exists_epoch (h : value.IsClock) (reader : Reader) :
    ∃ epoch, value.toEpoch reader = .ok epoch := by
  obtain ⟨epoch, hepoch⟩ := h.exists_epochs
  exact ⟨epoch reader.zone, hepoch reader⟩

end Value

end Provenance

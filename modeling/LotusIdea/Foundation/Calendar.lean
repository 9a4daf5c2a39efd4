import LotusIdea.Foundation.Values
import Mathlib.Tactic.IntervalCases

/-!
# Reading the texts of times

`fromisoformat` on the extended format that `isoformat` writes, and that every
time in the range of `datetime` is read back from its text.
-/

set_option autoImplicit false

/-! ## Numbers of a fixed width -/

namespace DigitText

/-- The number in the first `width` characters, and the text behind them. -/
def readPadded (width : Nat) (text : List Char) : Option (Nat × List Char) :=
  let digits := text.take width
  if digits.length = width ∧ digits.all Char.isDigit = true then
    some (Nat.ofDigitChars 10 digits 0, text.drop width)
  else none

/-- The text behind a character that has to come next. -/
def expect (c : Char) : List Char → Option (List Char)
  | d :: rest => if d = c then some rest else none
  | [] => none

@[simp] theorem expect_cons (c : Char) (rest : List Char) : expect c (c :: rest) = some rest := by
  simp [expect]

theorem length_padded {width n : Nat} (small : n < 10 ^ width) (wide : 0 < width) :
    (DateTime.padded width n).length = width := by
  have short : (Nat.toDigits 10 n).length ≤ width :=
    (Nat.length_toDigits_le_iff (by decide) wide).mpr small
  simp only [DateTime.padded, List.length_append, List.length_replicate]
  omega

theorem padded_digits (width n : Nat) : (DateTime.padded width n).all Char.isDigit = true := by
  rw [List.all_eq_true]
  intro c member
  rcases List.mem_append.mp member with zero | digit
  · rw [List.eq_of_mem_replicate zero]
    rfl
  · exact Nat.isDigit_of_mem_toDigits (by decide) (by decide) digit

theorem ofDigitChars_padded (width n : Nat) :
    Nat.ofDigitChars 10 (DateTime.padded width n) 0 = n := by
  simp [DateTime.padded, Nat.ofDigitChars_append, Nat.ofDigitChars_replicate_zero]

/-- A padded number is read back, whatever follows it. -/
theorem readPadded_padded {width n : Nat} (small : n < 10 ^ width) (wide : 0 < width)
    (rest : List Char) :
    readPadded width (DateTime.padded width n ++ rest) = some (n, rest) := by
  have long := length_padded small wide
  have taken : (DateTime.padded width n ++ rest).take width = DateTime.padded width n :=
    List.take_left' long
  have dropped : (DateTime.padded width n ++ rest).drop width = rest := List.drop_left' long
  simp only [readPadded, taken, dropped, long, padded_digits, and_self, if_true,
    ofDigitChars_padded]

end DigitText

namespace DateTime

open DigitText

/-! ## The calendar -/

/-- The day count from 1970-01-01 of a date of the Gregorian calendar. -/
def daysFromCivil (year month day : Nat) : Int :=
  let marchYear := if month ≤ 2 then year - 1 else year
  let era := marchYear / 400
  let yoe := marchYear % 400
  let mp := if month ≤ 2 then month + 9 else month - 3
  let doy := (153 * mp + 2) / 5 + day - 1
  let doe := 365 * yoe + yoe / 4 - yoe / 100 + doy
  (era * 146097 + doe : Int) - 719468

/-- The year of the era holds its day: a year of the era starts at the day the
leap days before it give, and is at most 366 days long. -/
theorem dayOfYear_bounds {doe yoe : Nat} (inEra : doe < 146097)
    (year : yoe = (doe - doe / 1460 + doe / 36524 - doe / 146096) / 365) :
    365 * yoe + yoe / 4 - yoe / 100 ≤ doe ∧
      doe - (365 * yoe + yoe / 4 - yoe / 100) ≤ 365 ∧ yoe < 400 := by
  have centuries : doe / 36524 ≤ 4 := by omega
  have lastDay : doe / 146096 ≤ 1 := by omega
  have century : yoe / 100 ≤ 3 := by omega
  generalize passed : doe / 36524 = e at *
  generalize last : doe / 146096 = f at *
  generalize whole : yoe / 100 = c at *
  interval_cases e <;> interval_cases f <;> interval_cases c <;> omega

/-- The day of the year lies in the month that the table of month lengths gives. -/
theorem dayOfMonth_bounds {doy mp : Nat} (inYear : doy ≤ 365) (month : mp = (5 * doy + 2) / 153) :
    mp ≤ 11 ∧ (153 * mp + 2) / 5 ≤ doy ∧ doy - (153 * mp + 2) / 5 < 31 := by
  have : mp ≤ 11 := by omega
  interval_cases mp <;> omega

/-- The fields of a calendar day are in range, and count back to the day. -/
theorem civilFromDays_range {days : Int} (low : -719162 ≤ days) (high : days ≤ 2932896)
    {year month day : Nat} (fields : civilFromDays days = (year, month, day)) :
    1 ≤ year ∧ year < 10000 ∧ month < 100 ∧ day < 100 ∧ daysFromCivil year month day = days := by
  obtain ⟨z, count⟩ : ∃ z : Nat, days + 719468 = z := ⟨(days + 719468).toNat, by omega⟩
  have whole : days = (z : Int) - 719468 := by omega
  have eraEq : (z : Int).fdiv 146097 = (z / 146097 : Nat) := by
    rw [Int.fdiv_eq_ediv_of_nonneg _ (by decide)]
    rfl
  have doeEq : ((z : Int) - (z / 146097 : Nat) * 146097).toNat = z % 146097 := by omega
  simp only [civilFromDays, count, eraEq, doeEq, Prod.mk.injEq] at fields
  generalize doeName : z % 146097 = doe at fields
  generalize eraName : z / 146097 = era at fields
  have inEra : doe < 146097 := by omega
  generalize yoeName : (doe - doe / 1460 + doe / 36524 - doe / 146096) / 365 = yoe at fields
  obtain ⟨before, within, inside⟩ := dayOfYear_bounds inEra yoeName.symm
  generalize startName : 365 * yoe + yoe / 4 - yoe / 100 = start at fields before within
  generalize doyName : doe - start = doy at fields within
  obtain ⟨mpSmall, monthStart, dayEnd⟩ := dayOfMonth_bounds within rfl
  generalize mpName : (5 * doy + 2) / 153 = mp at fields monthStart dayEnd mpSmall
  generalize firstName : (153 * mp + 2) / 5 = first at fields monthStart dayEnd
  obtain ⟨yearEq, monthEq, dayEq⟩ := fields
  rw [monthEq] at yearEq
  have yearNat : ((yoe : Int) + (era : Int) * 400).toNat = yoe + era * 400 := by omega
  rw [yearNat] at yearEq
  -- the range starts with the first day of a January
  have firstYear : era = 0 → yoe = 0 → ¬ mp < 10 := by
    intro firstEra firstYoe
    have marchStart : start = 0 := by rw [← startName, firstYoe]
    omega
  -- and ends with the last day of a December
  have lastYear : era = 24 → yoe = 399 → mp < 10 := by
    intro lastEra lastYoe
    have lastDay : doe ≤ 146036 := by omega
    have marchStart : start = 145731 := by rw [← startName, lastYoe]
    omega
  have marchYear : (if month ≤ 2 then year - 1 else year) = yoe + era * 400 := by
    split at yearEq <;> split <;> omega
  have marchMonth : (if month ≤ 2 then month + 9 else month - 3) = mp := by
    split at monthEq <;> split <;> omega
  refine ⟨?_, ?_, ?_, ?_, ?_⟩
  · by_cases early : mp < 10
    · have later : ¬ (era = 0 ∧ yoe = 0) := fun first => firstYear first.1 first.2 early
      split at yearEq <;> omega
    · rw [if_neg early] at monthEq
      rw [if_pos (by omega)] at yearEq
      omega
  · by_cases early : mp < 10
    · rw [if_pos early] at monthEq
      rw [if_neg (by omega)] at yearEq
      omega
    · split at yearEq <;> omega
  · split at monthEq <;> omega
  · omega
  · have eraBack : (yoe + era * 400) / 400 = era := by omega
    have yoeBack : (yoe + era * 400) % 400 = yoe := by omega
    simp only [daysFromCivil, marchYear, marchMonth, eraBack, yoeBack, firstName, startName]
    omega

/-- The days that have a date: 0001-01-01 to 9999-12-31. -/
def DayInRange (days : Int) : Prop := -719162 ≤ days ∧ days ≤ 2932896

instance (days : Int) : Decidable (DayInRange days) := inferInstanceAs (Decidable (_ ∧ _))

def dateText (days : Int) : List Char :=
  let (year, month, day) := civilFromDays days
  padded 4 year ++ '-' :: padded 2 month ++ '-' :: padded 2 day

/-- A date that the calendar does not have is refused. -/
def readDate (text : List Char) : Option (Int × List Char) := do
  let (year, text) ← readPadded 4 text
  let text ← expect '-' text
  let (month, text) ← readPadded 2 text
  let text ← expect '-' text
  let (day, text) ← readPadded 2 text
  let days := daysFromCivil year month day
  if 1 ≤ year ∧ civilFromDays days = (year, month, day) then some (days, text) else none

theorem readDate_dateText {days : Int} (inRange : DayInRange days) (rest : List Char) :
    readDate (dateText days ++ rest) = some (days, rest) := by
  cases fields : civilFromDays days with
  | mk year monthDay =>
      obtain ⟨month, day⟩ := monthDay
      obtain ⟨first, yearSmall, monthSmall, daySmall, back⟩ :=
        civilFromDays_range inRange.1 inRange.2 fields
      have yearRead := @readPadded_padded 4 _ yearSmall (by decide)
      have monthRead := @readPadded_padded 2 _ monthSmall (by decide)
      have dayRead := @readPadded_padded 2 _ daySmall (by decide)
      simp [readDate, dateText, fields, yearRead, monthRead, dayRead, back, first]

/-! ## The clock and the offset -/

/-- `.ffffff`, where the text has it. -/
def readFraction : List Char → Option (Nat × List Char)
  | '.' :: text => readPadded 6 text
  | text => some (0, text)

def readClock (text : List Char) : Option (Nat × List Char) := do
  let (hours, text) ← readPadded 2 text
  let text ← expect ':' text
  let (minutes, text) ← readPadded 2 text
  let text ← expect ':' text
  let (seconds, text) ← readPadded 2 text
  let (micros, text) ← readFraction text
  if hours < 24 ∧ minutes < 60 ∧ seconds < 60 then
    some (((hours * 60 + minutes) * 60 + seconds) * 1000000 + micros, text)
  else none

/-- `:SS[.ffffff]`, where the offset has it. -/
def readOffsetSeconds : List Char → Option (Nat × List Char)
  | ':' :: text => do
      let (seconds, text) ← readPadded 2 text
      let (micros, text) ← readFraction text
      if seconds < 60 then some (seconds * 1000000 + micros, text) else none
  | text => some (0, text)

def readOffsetSize (text : List Char) : Option Nat := do
  let (hours, text) ← readPadded 2 text
  let text ← expect ':' text
  let (minutes, text) ← readPadded 2 text
  let (micros, text) ← readOffsetSeconds text
  if text = [] ∧ hours < 24 ∧ minutes < 60 then
    some ((hours * 60 + minutes) * 60000000 + micros)
  else none

def readOffset : List Char → Option (Option Int)
  | [] => some none
  | '+' :: text => (readOffsetSize text).map fun size : Nat => some (size : Int)
  | '-' :: text => (readOffsetSize text).map fun size : Nat => some (-(size : Int))
  | _ => none

theorem readFraction_micros {micros : Nat} (small : micros < 1000000) {rest : List Char}
    (ends : rest.head? ≠ some '.') :
    readFraction ((if micros = 0 then [] else '.' :: padded 6 micros) ++ rest) =
      some (micros, rest) := by
  by_cases zero : micros = 0
  · rw [if_pos zero, zero, List.nil_append]
    unfold readFraction
    split
    · simp at ends
    · rfl
  · rw [if_neg zero, List.cons_append, readFraction]
    exact readPadded_padded small (by decide) rest

theorem readClock_clockText {micros : Nat} (inDay : micros < 86400000000) {rest : List Char}
    (ends : rest.head? ≠ some '.') :
    readClock (clockText micros ++ rest) = some (micros, rest) := by
  have hours := @readPadded_padded 2 (micros / 1000000 / 3600) (by omega) (by decide)
  have minutes := @readPadded_padded 2 (micros / 1000000 / 60 % 60) (by omega) (by decide)
  have seconds := @readPadded_padded 2 (micros / 1000000 % 60) (by omega) (by decide)
  have fraction := @readFraction_micros (micros % 1000000) (by omega) rest ends
  have inRange : micros / 1000000 / 3600 < 24 ∧ micros / 1000000 / 60 % 60 < 60 ∧
      micros / 1000000 % 60 < 60 := by omega
  simp only [readClock, clockText, List.append_assoc, List.cons_append, hours, minutes, seconds,
    fraction, expect_cons, Option.bind_eq_bind, Option.bind_some, if_pos inRange,
    Option.some.injEq, Prod.mk.injEq, and_true]
  omega

theorem readOffsetSeconds_rest {size : Nat} :
    readOffsetSeconds (if size % 60000000 = 0 then []
      else ':' :: padded 2 (size / 1000000 % 60) ++
        if size % 1000000 = 0 then [] else '.' :: padded 6 (size % 1000000)) =
      some (size % 60000000, []) := by
  by_cases whole : size % 60000000 = 0
  · rw [if_pos whole, whole]
    rfl
  · have seconds := @readPadded_padded 2 (size / 1000000 % 60) (by omega) (by decide)
    have fraction := @readFraction_micros (size % 1000000) (by omega) [] (by simp)
    rw [List.append_nil] at fraction
    have small : size / 1000000 % 60 < 60 := by omega
    rw [if_neg whole]
    simp only [List.cons_append, readOffsetSeconds, seconds, fraction, Option.bind_eq_bind,
      Option.bind_some, if_pos small, Option.some.injEq, Prod.mk.injEq, and_true]
    omega

theorem readOffset_offsetText {offset : Int} (inDay : offset.natAbs < 86400000000) :
    readOffset (offsetText offset) = some (some offset) := by
  generalize sizeName : offset.natAbs = size at inDay
  have hours := @readPadded_padded 2 (size / 3600000000) (by omega) (by decide)
  have minutes := @readPadded_padded 2 (size / 60000000 % 60) (by omega) (by decide)
  have seconds := @readOffsetSeconds_rest size
  have inRange : size / 3600000000 < 24 ∧ size / 60000000 % 60 < 60 := by omega
  have total : (size / 3600000000 * 60 + size / 60000000 % 60) * 60000000 + size % 60000000 =
      size := by omega
  have sizeRead : readOffsetSize (padded 2 (size / 3600000000) ++ ':' ::
      padded 2 (size / 60000000 % 60) ++ (if size % 60000000 = 0 then []
        else ':' :: padded 2 (size / 1000000 % 60) ++
          if size % 1000000 = 0 then [] else '.' :: padded 6 (size % 1000000))) =
      some size := by
    simp only [readOffsetSize, List.append_assoc, List.cons_append, hours, minutes,
      expect_cons, Option.bind_eq_bind, Option.bind_some]
    simp only [List.cons_append] at seconds
    rw [seconds]
    simp only [Option.bind_some, true_and, if_pos inRange, total]
  rw [offsetText, sizeName]
  simp only [List.cons_append] at sizeRead ⊢
  by_cases negative : offset < 0
  · have back : -(size : Int) = offset := by omega
    simp only [if_pos negative, readOffset, sizeRead, Option.map_some, back]
  · have back : (size : Int) = offset := by omega
    simp only [if_neg negative, readOffset, sizeRead, Option.map_some, back]

/-! ## `fromisoformat` -/

/-- A time that `datetime` can hold: its wall clock shows a date of the calendar,
and its offset is less than a day. -/
def InRange (t : DateTime) : Prop :=
  DayInRange ((t.instant + t.utcOffset.getD 0).fdiv 86400000000) ∧
    (t.utcOffset.getD 0).natAbs < 86400000000

instance (t : DateTime) : Decidable t.InRange := inferInstanceAs (Decidable (_ ∧ _))

def fromIsoformat (text : String) : Option DateTime := do
  let (days, text) ← readDate text.toList
  let text ← expect 'T' text
  let (micros, text) ← readClock text
  let offset ← readOffset text
  some ⟨days * 86400000000 + micros - offset.getD 0, offset⟩

theorem offsetText_head (offset : Int) : (offsetText offset).head? ≠ some '.' := by
  unfold offsetText
  by_cases negative : offset < 0 <;> simp [negative]

/-- A time is read back from its text. -/
theorem fromIsoformat_isoformat {t : DateTime} (inRange : t.InRange) :
    fromIsoformat t.isoformat = some t := by
  obtain ⟨instant, utcOffset⟩ := t
  obtain ⟨dayInRange, offsetInDay⟩ := inRange
  simp only at dayInRange offsetInDay
  generalize wallName : instant + utcOffset.getD 0 = wall at dayInRange
  have clock : (wall.fmod 86400000000).toNat < 86400000000 := by
    rw [Int.fmod_eq_emod_of_nonneg _ (by decide)]
    omega
  have whole : wall.fdiv 86400000000 * 86400000000 + ((wall.fmod 86400000000).toNat : Int) -
      utcOffset.getD 0 = instant := by
    rw [Int.fmod_eq_emod_of_nonneg _ (by decide), Int.fdiv_eq_ediv_of_nonneg _ (by decide)]
    omega
  have offsetEnds : (utcOffset.elim [] offsetText).head? ≠ some '.' := by
    cases utcOffset with
    | none => simp
    | some offset => exact offsetText_head offset
  have offsetRead : readOffset (utcOffset.elim [] offsetText) = some utcOffset := by
    cases utcOffset with
    | none => rfl
    | some offset => exact readOffset_offsetText offsetInDay
  have text : (isoformat ⟨instant, utcOffset⟩).toList =
      dateText (wall.fdiv 86400000000) ++ 'T' :: (clockText (wall.fmod 86400000000).toNat ++
        utcOffset.elim [] offsetText) := by
    simp [isoformat, dateText, wallName]
  simp only [fromIsoformat, text, readDate_dateText dayInRange, expect_cons,
    readClock_clockText clock offsetEnds, offsetRead, whole, Option.bind_eq_bind,
    Option.bind_some]

/-- Different times have different texts. -/
theorem isoformat_injective {a b : DateTime} (aInRange : a.InRange) (bInRange : b.InRange)
    (same : a.isoformat = b.isoformat) : a = b := by
  have read := fromIsoformat_isoformat aInRange
  rw [same, fromIsoformat_isoformat bInRange] at read
  exact (Option.some.inj read).symm

end DateTime

/-- `date.fromisoformat`. -/
def Date.fromIsoformat (text : String) : Option Date := do
  let (days, rest) ← DateTime.readDate text.toList
  if rest = [] then some ⟨days⟩ else none

theorem Date.fromIsoformat_isoformat {d : Date} (inRange : DateTime.DayInRange d.days) :
    Date.fromIsoformat d.isoformat = some d := by
  have text : d.isoformat.toList = DateTime.dateText d.days ++ [] := by
    simp [Date.isoformat, DateTime.dateText]
  simp only [Date.fromIsoformat, text, DateTime.readDate_dateText inRange, Option.bind_eq_bind,
    Option.bind_some, if_true]

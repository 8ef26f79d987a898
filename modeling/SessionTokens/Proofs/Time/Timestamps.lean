import SessionTokens.Proofs.Text.Decimal
import SessionTokens.Proofs.Time.Calendar
import SessionTokens.Time.Timestamp

/-! # A written timestamp is read back

Each part of a written timestamp is taken off its front again, whatever follows. Numbers are written
with as many digits as their readers take at most; where a reader would take more, the character
after the number is no digit.
-/

namespace SessionTokens.Time

open Text

/-! ## No blanks before a number -/

theorem trimStart_of_head {text : List Char} (h : ∀ c ∈ text.head?, isBlank c = false) :
    trimStart text = text := by
  cases text with
  | nil => rfl
  | cons c text => simp [trimStart, h c rfl]

theorem isBlank_of_isDigit {c : Char} (h : isDigit c = true) : isBlank c = false := by
  have hrange : '0'.toNat ≤ c.toNat ∧ c.toNat ≤ '9'.toNat := by
    unfold isDigit digitValue? at h
    split at h
    next hdigit => exact hdigit
    next => cases h
  have hzero : '0'.toNat = 48 := rfl
  have hnine : '9'.toNat = 57 := rfl
  simp [isBlank]
  omega

theorem trimStart_numeral {text rest : List Char} {n : Nat} (h : Numeral text n) :
    trimStart (text ++ rest) = text ++ rest := by
  apply trimStart_of_head
  cases text with
  | nil => exact absurd rfl h.nonempty
  | cons c text =>
      rintro _ ⟨rfl⟩
      exact isBlank_of_isDigit (h.isDigit c List.mem_cons_self)

namespace Timestamp

/-! ## Reading digits -/

/-- A text that does not begin with a digit. -/
def NoDigit (text : List Char) : Prop := ∀ c ∈ text.head?, isDigit c = false

theorem NoDigit.take {text : List Char} (h : NoDigit text) (n : Nat) : NoDigit (text.take n) := by
  intro c hc
  cases n with
  | zero => simp at hc
  | succ n =>
      cases text with
      | nil => simp at hc
      | cons first text => exact h c hc

theorem takeWhile_digits {text rest : List Char} (h : ∀ c ∈ text, isDigit c = true)
    (hrest : NoDigit rest) : (text ++ rest).takeWhile isDigit = text := by
  rw [List.takeWhile_append_of_pos h]
  cases rest with
  | nil => simp
  | cons c rest => simp [hrest c rfl]

/-- All the digits before a text are read, if no more of them fit or the text begins with none. -/
theorem scanDigits_append {limit n : Nat} {text rest : List Char} (h : Numeral text n)
    (hlength : text.length ≤ limit) (hrest : text.length = limit ∨ NoDigit rest) :
    scanDigits limit (text ++ rest) = some (text, rest) := by
  have hstop : NoDigit (rest.take (limit - text.length)) := by
    rcases hrest with heq | hno
    · rw [heq, Nat.sub_self, List.take_zero]
      intro c hc
      cases hc
    · exact hno.take _
  have htaken : ((text ++ rest).take limit).takeWhile isDigit = text := by
    rw [List.take_append, List.take_of_length_le hlength]
    exact takeWhile_digits h.isDigit hstop
  have hnonempty : text.isEmpty = false := by
    rw [List.isEmpty_eq_false_iff]
    exact h.nonempty
  simp [scanDigits, htaken, hnonempty]

/-- A number of two digits is read back before anything. -/
theorem scanNumber_twoDigits {n : Nat} (h : n < 100) (rest : List Char) :
    scanNumber 2 (twoDigits n ++ rest) = some (n, rest) := by
  have hnumeral : Numeral (twoDigits n) n := (numeral_natDigits n).zeroPadded 2
  have hlength : (twoDigits n).length = 2 := length_zeroPadded 1 h
  rw [scanNumber, trimStart_numeral hnumeral,
    scanDigits_append hnumeral (Nat.le_of_eq hlength) (.inl hlength)]
  simp [hnumeral.value]

theorem scanMark_cons {mark : Char} (h : isBlank mark = false) (rest : List Char) :
    scanMark mark (mark :: rest) = some rest := by
  simp [scanMark, trimStart, h]

theorem noDigit_cons {c : Char} (h : isDigit c = false) (rest : List Char) : NoDigit (c :: rest) := by
  rintro _ ⟨rfl⟩
  exact h

/-! ## Reading the parts -/

theorem scanYear_signed {n : Nat} {text rest : List Char} (h : Numeral text n) (hrest : NoDigit rest) :
    scanYear ('-' :: text ++ rest) = some (-(n : Int), rest) ∧
      scanYear ('+' :: text ++ rest) = some ((n : Int), rest) := by
  have hread : scanDigits (text.length + rest.length) (text ++ rest) = some (text, rest) :=
    scanDigits_append h (Nat.le_add_right _ _) (.inr hrest)
  have hminus : isBlank '-' = false := by decide
  have hplus : isBlank '+' = false := by decide
  constructor
  · simp [scanYear, trimStart, hminus, hread, h.value]
  · simp [scanYear, trimStart, hplus, hread, h.value]

theorem scanYear_unsigned {n : Nat} {text rest : List Char} (h : Numeral text n)
    (hlength : text.length = 4) : scanYear (text ++ rest) = some ((n : Int), rest) := by
  have hread : scanDigits 4 (text ++ rest) = some (text, rest) :=
    scanDigits_append h (Nat.le_of_eq hlength) (.inl hlength)
  rw [scanYear, trimStart_numeral h]
  cases text with
  | nil => exact absurd rfl h.nonempty
  | cons c text =>
      -- a digit is no sign, so that the reader of at most four digits is the one that runs
      have hdigit := h.isDigit c List.mem_cons_self
      split
      next heq =>
        obtain ⟨rfl, -⟩ := List.cons.inj heq
        exact absurd hdigit (by decide)
      next heq =>
        obtain ⟨rfl, -⟩ := List.cons.inj heq
        exact absurd hdigit (by decide)
      next => simp only [hread, Option.map_some, h.value]

theorem scanYear_yearText (year : Int) {rest : List Char} (hrest : NoDigit rest) :
    scanYear (yearText year ++ rest) = some (year, rest) := by
  have hnumeral (n : Nat) : Numeral (zeroPadded 4 (natDigits n)) n := (numeral_natDigits n).zeroPadded 4
  unfold yearText
  -- without a sign four digits are read whatever follows, with one all digits up to the next mark
  split
  next hfour =>
    have hlength : (zeroPadded 4 (natDigits year.toNat)).length = 4 :=
      length_zeroPadded 3 (show year.toNat < 10000 by omega)
    rw [scanYear_unsigned (hnumeral _) hlength, Int.toNat_of_nonneg hfour.1]
  next hsigned =>
    obtain ⟨hminus, hplus⟩ := scanYear_signed (hnumeral year.natAbs) hrest
    by_cases hnegative : year < 0
    · rw [if_pos hnegative, hminus]
      congr 2
      omega
    · rw [if_neg hnegative, hplus]
      congr 2
      omega

/-- How a date is written. -/
def dateText (date : Date) : List Char :=
  yearText date.year ++ '-' :: twoDigits date.month ++ '-' :: twoDigits date.day

theorem scanDate_dateText {date : Date} (hmonth : date.month < 100) (hday : date.day < 100)
    (rest : List Char) : scanDate (dateText date ++ rest) = some (date, rest) := by
  have hminus : isBlank '-' = false := by decide
  have hyear := scanYear_yearText date.year (noDigit_cons (c := '-') (by decide)
    (twoDigits date.month ++ '-' :: (twoDigits date.day ++ rest)))
  simp [dateText, scanDate, hyear, scanMark_cons hminus, scanNumber_twoDigits hmonth,
    scanNumber_twoDigits hday]

/-- The digits of a fraction that is written with less than nine digits stand for the first of nine. -/
theorem scanFraction_digits (width : Nat) {n : Nat} (hwidth : width + 1 ≤ 9) (h : n < Nat.pow 10 (width + 1))
    {rest : List Char} (hrest : NoDigit rest) :
    scanFraction ('.' :: zeroPadded (width + 1) (natDigits n) ++ rest) =
      some (n * Nat.pow 10 (9 - (width + 1)), rest) := by
  have hnumeral := (numeral_natDigits n).zeroPadded (width + 1)
  have hlength := length_zeroPadded width h
  have hdrop : rest.dropWhile isDigit = rest := by
    cases rest with
    | nil => rfl
    | cons c rest => simp [hrest c rfl]
  have hread : scanDigits 9 (zeroPadded (width + 1) (natDigits n) ++ rest) =
      some (zeroPadded (width + 1) (natDigits n), rest) :=
    scanDigits_append hnumeral (by omega) (.inr hrest)
  simp [scanFraction, hread, hnumeral.value, hlength, hdrop]

theorem scanFraction_fractionText {nano : Nat} (hnano : nano < 1000000000) (rest : List Char) :
    scanFraction (fractionText nano ++ 'Z' :: rest) = some (nano, 'Z' :: rest) := by
  have hrest : NoDigit ('Z' :: rest) := noDigit_cons (by decide) rest
  unfold fractionText
  split
  next hzero => simp [hzero, scanFraction]
  split
  next hmillis =>
    have hscale : Nat.pow 10 (9 - (2 + 1)) = 1000000 := rfl
    rw [scanFraction_digits 2 (by omega) (show nano / 1000000 < 1000 by omega) hrest, hscale]
    congr 2
    omega
  split
  next hmicros =>
    have hscale : Nat.pow 10 (9 - (5 + 1)) = 1000 := rfl
    rw [scanFraction_digits 5 (by omega) (show nano / 1000 < 1000000 by omega) hrest, hscale]
    congr 2
    omega
  next =>
    have hscale : Nat.pow 10 (9 - (8 + 1)) = 1 := rfl
    rw [scanFraction_digits 8 (by omega) hnano hrest, hscale, Nat.mul_one]

/-- How a time of day is written. -/
def timeText (time : TimeOfDay) : List Char :=
  twoDigits time.hour ++ ':' :: twoDigits time.minute ++ ':' :: twoDigits time.second ++
    fractionText time.nano

theorem scanTime_timeText {time : TimeOfDay} (hhour : time.hour < 100) (hminute : time.minute < 100)
    (hsecond : time.second < 100) (hnano : time.nano < 1000000000) (rest : List Char) :
    scanTime (timeText time ++ 'Z' :: rest) = some (time, 'Z' :: rest) := by
  have hcolon : isBlank ':' = false := by decide
  simp [timeText, scanTime, scanMark_cons hcolon, scanNumber_twoDigits hhour,
    scanNumber_twoDigits hminute, scanNumber_twoDigits hsecond, scanFraction_fractionText hnano]

/-! ## Reading the whole -/

theorem make?_self (t : Timestamp) : make? t.second t.nano t.leap = some t := by
  unfold make?
  rw [dif_pos ⟨t.nano_lt, t.earliest_le, t.le_latest, t.leap_last⟩]

/-- The date of a timestamp in UTC. -/
def date (t : Timestamp) : Date := Date.ofDays (t.second / 86400)

/-- The time of day of a timestamp in UTC. A leap second is second 60 of its minute. -/
def timeOfDay (t : Timestamp) : TimeOfDay where
  hour := (t.second % 86400).toNat / 3600
  minute := (t.second % 86400).toNat / 60 % 60
  second := (t.second % 86400).toNat % 60 + if t.leap then 1 else 0
  nano := t.nano

theorem hour_lt (t : Timestamp) : t.timeOfDay.hour < 24 := by
  simp only [timeOfDay]
  omega

theorem minute_lt (t : Timestamp) : t.timeOfDay.minute < 60 := by
  simp only [timeOfDay]
  omega

theorem second_le (t : Timestamp) : t.timeOfDay.second ≤ 60 := by
  simp only [timeOfDay]
  split <;> omega

/-- Only a leap second is written as second 60, since it follows second 59. -/
theorem second_eq_sixty_iff (t : Timestamp) : t.timeOfDay.second = 60 ↔ t.leap = true := by
  simp only [timeOfDay]
  constructor
  · intro hsixty
    refine Decidable.byContradiction fun hleap => ?_
    rw [if_neg hleap] at hsixty
    omega
  · intro hleap
    have hlast := t.leap_last hleap
    rw [if_pos hleap]
    omega

/-- Second 60 counts as second 59, as the leap second that it is. -/
theorem counted_second (t : Timestamp) :
    (if t.leap then 59 else t.timeOfDay.second) = (t.second % 86400).toNat % 60 := by
  split
  next hleap =>
    have hlast := t.leap_last hleap
    omega
  next hleap => simp [timeOfDay, hleap]

/-- The seconds of the day and those of the time of day add up. -/
theorem second_eq_sum (t : Timestamp) :
    t.second / 86400 * 86400 + ((t.timeOfDay.hour * 3600 + t.timeOfDay.minute * 60 +
      (t.second % 86400).toNat % 60 : Nat) : Int) = t.second := by
  simp only [timeOfDay]
  omega

theorem year_date (t : Timestamp) : -262143 ≤ t.date.year ∧ t.date.year ≤ 262142 := by
  have hearliest := t.earliest_le
  have hlatest := t.le_latest
  exact Date.year_ofDays (by omega) (by omega)

/-- The date and the time of day of a timestamp in UTC name it. -/
theorem ofLocal?_parts (t : Timestamp) : ofLocal? t.date t.timeOfDay 0 = some t := by
  obtain ⟨hfirst, hfinal⟩ := t.year_date
  have hvalid : t.date.isValid = true := Date.isValid_ofDays _
  have hdays : t.date.toDays = t.second / 86400 := Date.toDays_ofDays _
  have hleap : decide (t.timeOfDay.second = 60) = t.leap := by
    rw [Bool.eq_iff_iff, decide_eq_true_eq]
    exact t.second_eq_sixty_iff
  have hnano : t.timeOfDay.nano = t.nano := rfl
  simp only [ofLocal?, hvalid, hfirst, hfinal, t.hour_lt, t.minute_lt, t.second_le, hleap, hdays,
    t.counted_second, hnano, t.second_eq_sum, Int.sub_zero, make?_self]
  rfl

theorem lt_hundred_of_isValid {date : Date} (h : date.isValid = true) :
    date.month < 100 ∧ date.day < 100 := by
  have hdays : Date.daysInMonth date.year date.month ≤ 31 := by
    unfold Date.daysInMonth
    split
    · split <;> omega
    · split <;> omega
  simp only [Date.isValid, Bool.and_eq_true, decide_eq_true_eq] at h
  omega

theorem write_eq (t : Timestamp) :
    t.write = dateText t.date ++ 'T' :: (timeText t.timeOfDay ++ ['Z']) := by
  simp [write, dateText, timeText, date, timeOfDay]

/-- What is written for a timestamp is read as that timestamp, a leap second as such. -/
theorem read_write (t : Timestamp) : read t.write = some t := by
  obtain ⟨hmonth, hday⟩ := lt_hundred_of_isValid (Date.isValid_ofDays (t.second / 86400))
  have hdate := scanDate_dateText hmonth hday ('T' :: (timeText t.timeOfDay ++ ['Z']))
  have hhour := t.hour_lt
  have hminute := t.minute_lt
  have hsecond := t.second_le
  have htime : scanTime (timeText t.timeOfDay ++ ['Z']) = some (t.timeOfDay, ['Z']) :=
    scanTime_timeText (by omega) (by omega) (by omega) t.nano_lt []
  have hzone : trimStart ['Z'] = ['Z'] := by decide
  have hend : trimStart [] = [] := rfl
  simp only [read, write_eq, date, hdate, htime, hzone, hend, scanSeparator, scanOffset, true_or,
    if_true, Option.bind_eq_bind, Option.bind_some, List.isEmpty_nil]
  exact ofLocal?_parts t

/-- The timestamp of an instant stands for that instant. -/
theorem toInstant?_ofInstant (t : Instant) : (ofInstant t).toInstant? = some t := by
  refine Instant.ofNanos?_eq_some.mpr ?_
  simp only [ofInstant, Bool.false_eq_true, if_false]
  omega

end Timestamp

end SessionTokens.Time
